/-
Zks.Wire.SignalingTheorems — what a session of calls on one
`SignalingClient` reads from its stream, sends and returns.

## How the proofs go

The stream is seen through `answers`: its text frames, up to and including
the first `Close` frame or error, with the frames the client ignores left
out (`answers_eq`). `receiveLoop_answer` and `answers_receiveLoop` say that
one run of `receive_message`'s loop takes exactly the next answer (the end
of the stream when none is left) and leaves the others.

A `ClientView` is what a session observes of a client: the sink's verdicts
still to come, the answers still to come, the frames sent and the
connected flag. `Call.expected` is the abstract account of one call: a
call whose send the sink refuses fails with `SendFailed` and reads nothing;
otherwise it sends exactly its request, and `discover_peers` and
`get_swarm_entropy` then take the next answer and make their reply of it,
while `join_room` and `leave_room` read nothing. `call_view` proves that
each call of the code refines it; `session_view` lifts this to every
session by induction.
-/
import Mathlib
import Zks.Wire.Signaling
import Zks.Wire.FrameCodecs

namespace Zks.Wire

/-! ## Answers -/

/-- The answers a stream holds for receiving calls, in order: its text
frames, and the first `Close` frame or error, after which it yields
nothing; the frames the client ignores are left out. -/
def answers : List StreamItem → List Received
  | [] => []
  | .frame (.text s) :: rest => .text s :: answers rest
  | .frame .close :: _ => [.closed]
  | .error e :: _ => [.failed e]
  | .frame _ :: rest => answers rest

/-- Whether an item is the last a stream yields. -/
def StreamItem.ends : StreamItem → Bool
  | .frame .close => true
  | .error _ => true
  | _ => false

/-- The text of a text frame. -/
def StreamItem.text? : StreamItem → Option String
  | .frame (.text s) => some s
  | _ => none

/-- The answer an item that ends the stream gives. -/
def StreamItem.ending? : StreamItem → Option Received
  | .frame .close => some .closed
  | .error e => some (.failed e)
  | _ => none

/-- The answers are the text frames before the first `Close` frame or
error, in order, followed by that `Close` or error. -/
theorem answers_eq (items : List StreamItem) :
    answers items =
      ((items.takeWhile fun it => !it.ends).filterMap StreamItem.text?).map .text ++
        ((items.find? StreamItem.ends).bind StreamItem.ending?).toList := by
  induction items with
  | nil => rfl
  | cons it rest ih =>
    rcases it with (_ | _ | _ | _ | _ | _) | e <;>
      simp [answers, StreamItem.ends, StreamItem.text?, StreamItem.ending?, ih, List.takeWhile_cons,
        List.find?_cons]

/-- One run of the loop of `receive_message` ends on the next answer. -/
theorem receiveLoop_answer (items : List StreamItem) :
    (receiveLoop items).1 = (answers items).headD .closed := by
  induction items with
  | nil => rfl
  | cons it rest ih => rcases it with (_ | _ | _ | _ | _ | _) | e <;> simp [receiveLoop, answers, ih]

/-- One run of the loop of `receive_message` leaves the other answers. -/
theorem answers_receiveLoop (items : List StreamItem) :
    answers (receiveLoop items).2 = (answers items).tail := by
  induction items with
  | nil => rfl
  | cons it rest ih => rcases it with (_ | _ | _ | _ | _ | _) | e <;> simp [receiveLoop, answers, ih]

/-! ## The abstract client -/

/-- What a session observes of a client. -/
structure ClientView where
  sink : List (Option String)
  answers : List Received
  sent : List Message
  isConnected : Bool
  deriving DecidableEq, Repr

/-- The view of a client. -/
def SignalingClient.view (c : SignalingClient) : ClientView :=
  ⟨c.wsStream.sink, answers c.wsStream.incoming, c.wsStream.sent, c.isConnected⟩

/-- Whether a call reads a reply. -/
def Call.receives : Call → Bool
  | .discoverPeers _ => true
  | .getSwarmEntropy _ _ => true
  | _ => false

/-- The request a call of a client with peer id `peerId` sends. -/
def Call.request (peerId : String) : Call → SignalingMessage
  | .joinRoom r caps now =>
    .join r { peerId, publicKey := [], capabilities := caps, lastSeen := now, addresses := [] }
  | .leaveRoom r => .leave r
  | .discoverPeers r => .discover r
  | .getSwarmEntropy r q => .entropyRequest r q

/-- The reply of a receiving call answered by `a`: `ConnectionClosed` for
a `Close` frame or the end of the stream, `DeserializationFailed` for a
text that does not decode; `discover_peers` returns the peers of a
`Peers`, `ServerError` for an `Error` and `UnexpectedMessage` for any
other variant. -/
def Call.answerReply (k : Call) : Received → Except SignalingError Reply
  | .closed => .error .connectionClosed
  | .failed e => .error (.receiveFailed ("WebSocket error: " ++ e))
  | .text s =>
    match SignalingMessage.fromText s with
    | .error e => .error (.deserializationFailed ("Failed to deserialize message: " ++ e))
    | .ok m =>
      match k, m with
      | .discoverPeers _, .peers ps => .ok (.peers ps)
      | .discoverPeers _, .error code message => .error (.serverError (code ++ ": " ++ message))
      | .discoverPeers _, _ => .error (.unexpectedMessage "Expected Peers response")
      | .getSwarmEntropy _ q, m => (SignalingClient.entropyReply q m).map .entropy
      | _, _ => .ok .unit

/-- One call, on the view. -/
def Call.expected (peerId : String) (k : Call) (v : ClientView) : ClientView × Except SignalingError Reply :=
  match v.sink.headD none with
  | some e => ({ v with sink := v.sink.tail }, .error (.sendFailed ("Failed to send message: " ++ e)))
  | none =>
    let v' := { v with sink := v.sink.tail, sent := v.sent ++ [.text (k.request peerId).toText] }
    if k.receives then
      let a := v.answers.headD .closed
      ({ v' with answers := v.answers.tail, isConnected := if a = .closed then false else v.isConnected },
       k.answerReply a)
    else (v', .ok .unit)

/-- A session of calls, on the view. -/
def expectedSession (peerId : String) (v : ClientView) : List Call → ClientView × List (Except SignalingError Reply)
  | [] => (v, [])
  | k :: ks =>
    let (v₁, r) := k.expected peerId v
    let (v₂, rs) := expectedSession peerId v₁ ks
    (v₂, r :: rs)

/-! ## Sessions of the abstract client -/

section Abstract

variable (p : String)

/-- Only a `Close` frame or the end of the stream makes a receiving call
fail with `ConnectionClosed`. -/
theorem answerReply_eq_closed (k : Call) (a : Received) :
    k.answerReply a = .error .connectionClosed ↔ a = .closed := by
  rcases a with s | _ | e
  · simp only [Call.answerReply]
    rcases SignalingMessage.fromText s with e | m
    · simp
    · cases k with
      | getSwarmEntropy r q =>
        cases m <;> simp [SignalingClient.entropyReply, Except.map]
        split_ifs <;> simp
      | _ => cases m <;> simp
  · simp [Call.answerReply]
  · simp [Call.answerReply]

/-- A call clears the connected flag exactly when it fails with
`ConnectionClosed`. -/
theorem expected_isConnected (k : Call) (v : ClientView) :
    (k.expected p v).1.isConnected =
      (v.isConnected && !decide ((k.expected p v).2 = .error .connectionClosed)) := by
  unfold Call.expected
  cases v.sink.headD none with
  | some e => simp
  | none =>
    by_cases hk : k.receives
    · by_cases ha : v.answers.headD .closed = .closed <;>
        simp [hk, ha, answerReply_eq_closed, Bool.and_comm]
    · simp [hk]

/-- The connected flag after a session: cleared exactly when some call
failed with `ConnectionClosed`. -/
theorem expectedSession_isConnected (v : ClientView) (ks : List Call) :
    (expectedSession p v ks).1.isConnected =
      (v.isConnected && !(expectedSession p v ks).2.contains (.error .connectionClosed)) := by
  induction ks generalizing v with
  | nil => simp [expectedSession]
  | cons k ks ih =>
    have hc := expected_isConnected p k v
    rcases hk : k.expected p v with ⟨v₁, r⟩
    simp only [hk] at hc
    simp only [expectedSession, hk, ih, hc, List.contains_cons]
    by_cases hr : r = .error .connectionClosed
    · subst hr; simp
    · simp [hr, beq_false_of_ne (Ne.symm hr)]

/-- One call when the sink accepts its request. -/
theorem expected_accepted (k : Call) (v : ClientView) (hv : v.sink.headD none = none) :
    k.expected p v =
      ({ v with sink := v.sink.tail, sent := v.sent ++ [.text (k.request p).toText],
                answers := if k.receives then v.answers.tail else v.answers,
                isConnected := if k.receives ∧ v.answers.headD .closed = .closed then false
                  else v.isConnected },
       if k.receives then k.answerReply (v.answers.headD .closed) else .ok .unit) := by
  unfold Call.expected
  rw [hv]
  by_cases hk : k.receives <;> simp [hk]

theorem headD_none_of_accepting {sink : List (Option String)} (hs : ∀ x ∈ sink, x = none) :
    sink.headD none = none := by
  cases sink with
  | nil => rfl
  | cons x xs => exact hs x (List.mem_cons_self x xs)

theorem getD_tail {α : Type} (l : List α) (n : Nat) (d : α) : l.tail.getD n d = l.getD (n + 1) d := by
  cases l <;> simp

/-- With a sink that accepts everything, a session sends exactly one
request per call, in order. -/
theorem expectedSession_sent (v : ClientView) (ks : List Call) (hs : ∀ x ∈ v.sink, x = none) :
    (expectedSession p v ks).1.sent = v.sent ++ ks.map fun k => .text (k.request p).toText := by
  induction ks generalizing v with
  | nil => simp [expectedSession]
  | cons k ks ih =>
    simp only [expectedSession, expected_accepted p k v (headD_none_of_accepting hs)]
    rw [ih _ fun x hx => hs x (List.mem_of_mem_tail hx)]
    simp

/-- With a sink that accepts everything, the `i`-th call of a session, when
it reads a reply, is answered by the answer whose index is the number of
receiving calls before it; the others return `Ok`. -/
theorem expectedSession_reply (v : ClientView) (ks : List Call) (hs : ∀ x ∈ v.sink, x = none)
    (i : Nat) :
    (expectedSession p v ks).2[i]? = ks[i]?.map fun k =>
      if k.receives then k.answerReply (v.answers.getD ((ks.take i).countP Call.receives) .closed)
      else .ok .unit := by
  induction ks generalizing v i with
  | nil => simp [expectedSession]
  | cons k ks ih =>
    simp only [expectedSession, expected_accepted p k v (headD_none_of_accepting hs)]
    cases i with
    | zero => cases v.answers <;> simp
    | succ i =>
      rw [List.getElem?_cons_succ, ih _ fun x hx => hs x (List.mem_of_mem_tail hx)]
      by_cases hk : k.receives <;> simp [hk, getD_tail, List.countP_cons, Nat.add_comm]

end Abstract

/-! ## The code refines the abstract client -/

namespace SignalingClient

theorem receiveMessage_view (c : SignalingClient) :
    c.receiveMessage.1.view =
      { c.view with answers := c.view.answers.tail,
                    isConnected := if c.view.answers.headD .closed = .closed then false
                      else c.isConnected } ∧
    c.receiveMessage.1.peerId = c.peerId ∧
    c.receiveMessage.2 = (c.view.answers.headD .closed).result := by
  have h₁ := receiveLoop_answer c.wsStream.incoming
  have h₂ := answers_receiveLoop c.wsStream.incoming
  rcases hr : receiveLoop c.wsStream.incoming with ⟨r, rest⟩
  rw [hr] at h₁ h₂
  simp only at h₁ h₂
  subst h₁
  simp [receiveMessage, view, hr, h₂]

/-- `discover_peers` once its request is out: the reply to what
`receive_message` returned. -/
theorem discoverPeers_of_sent {c c' : SignalingClient} {r : String}
    (h : c.sendMessage (.discover r) = (c', .ok ())) :
    c.discoverPeers r = (c'.receiveMessage.1, c'.receiveMessage.2.bind peersReply) := by
  unfold discoverPeers
  rw [h]
  dsimp only
  rcases c'.receiveMessage with ⟨_, _ | _⟩ <;> rfl

/-- `get_swarm_entropy` once its request is out. -/
theorem getSwarmEntropy_of_sent {c c' : SignalingClient} {r q : String}
    (h : c.sendMessage (.entropyRequest r q) = (c', .ok ())) :
    c.getSwarmEntropy r q = (c'.receiveMessage.1, c'.receiveMessage.2.bind (entropyReply q)) := by
  unfold getSwarmEntropy
  rw [h]
  dsimp only
  rcases c'.receiveMessage with ⟨_, _ | _⟩ <;> rfl

theorem peersReply_answer (r : String) (a : Received) :
    (a.result.bind peersReply).map Reply.peers = (Call.discoverPeers r).answerReply a := by
  rcases a with s | _ | e
  · simp only [Received.result, Call.answerReply]
    rcases SignalingMessage.fromText s with e | (_ | _ | _ | _ | _ | _ | _) <;> rfl
  all_goals rfl

theorem entropyReply_answer (r q : String) (a : Received) :
    (a.result.bind (entropyReply q)).map Reply.entropy = (Call.getSwarmEntropy r q).answerReply a := by
  rcases a with s | _ | e
  · simp only [Received.result, Call.answerReply]
    rcases SignalingMessage.fromText s with e | m <;> rfl
  all_goals rfl

/-- The client after the sink accepted `m`. -/
def withSent (c : SignalingClient) (m : SignalingMessage) : SignalingClient :=
  { c with wsStream := { c.wsStream with sink := c.wsStream.sink.tail,
                                         sent := c.wsStream.sent ++ [.text m.toText] } }

theorem sendMessage_accepted {c : SignalingClient} (m : SignalingMessage)
    (hv : c.wsStream.sink.head?.getD none = none) : c.sendMessage m = (c.withSent m, .ok ()) := by
  simp [sendMessage, WsStream.send, hv, withSent]

@[simp] theorem view_withSent (c : SignalingClient) (m : SignalingMessage) :
    (c.withSent m).view =
      { c.view with sink := c.view.sink.tail, sent := c.view.sent ++ [.text m.toText] } := rfl

@[simp] theorem peerId_withSent (c : SignalingClient) (m : SignalingMessage) :
    (c.withSent m).peerId = c.peerId := rfl

/-- **Each call refines its abstract account**, and keeps the peer id. -/
theorem call_view (c : SignalingClient) (k : Call) :
    ((c.call k).1.view, (c.call k).2) = k.expected c.peerId c.view ∧ (c.call k).1.peerId = c.peerId := by
  cases hv : c.wsStream.sink.head?.getD none with
  | some e =>
    cases k <;> simp [call, joinRoom, leaveRoom, discoverPeers, getSwarmEntropy, sendMessage,
      WsStream.send, hv, Call.expected, view, Except.map]
  | none =>
    cases k with
    | joinRoom r caps now =>
      simp [call, joinRoom, sendMessage_accepted _ hv, Call.expected, view, withSent, hv,
        Call.receives, Call.request, Except.map]
    | leaveRoom r =>
      simp [call, leaveRoom, sendMessage_accepted _ hv, Call.expected, view, withSent, hv,
        Call.receives, Call.request, Except.map]
    | discoverPeers r =>
      obtain ⟨h₁, h₂, h₃⟩ := receiveMessage_view (c.withSent (.discover r))
      simp only [call, discoverPeers_of_sent (sendMessage_accepted _ hv), h₁, h₂, h₃,
        peersReply_answer r]
      simp [Call.expected, view, withSent, hv, Call.receives, Call.request]
    | getSwarmEntropy r q =>
      obtain ⟨h₁, h₂, h₃⟩ := receiveMessage_view (c.withSent (.entropyRequest r q))
      simp only [call, getSwarmEntropy_of_sent (sendMessage_accepted _ hv), h₁, h₂, h₃,
        entropyReply_answer r q]
      simp [Call.expected, view, withSent, hv, Call.receives, Call.request]

/-- Every session refines its abstract account. -/
theorem session_view (c : SignalingClient) (ks : List Call) :
    ((c.session ks).1.view, (c.session ks).2) = expectedSession c.peerId c.view ks := by
  induction ks generalizing c with
  | nil => rfl
  | cons k ks ih =>
    obtain ⟨hk, hp⟩ := call_view c k
    simp only [session, expectedSession, ← hk]
    rw [← hp, ← ih]

end SignalingClient


/-- **A session reads its stream in order.** For every client, every session
of calls on it, every stream and every sink: the session refines the
abstract client call by call, on the stream's answers, which are its text
frames up to its first `Close` frame or error, then that `Close` or error;
the connected flag ends cleared exactly when some call failed with
`ConnectionClosed`; and when the sink accepts every send, the calls send
exactly one request each, in order, and the `i`-th call, when it is
`discover_peers` or `get_swarm_entropy`, is answered by the answer whose
index is the number of receiving calls before it (`ConnectionClosed` when
none is left), while `join_room` and `leave_room` return `Ok`. -/
theorem session_reads_stream_in_order (c : SignalingClient) (calls : List Call) :
    ((c.session calls).1.view, (c.session calls).2) = expectedSession c.peerId c.view calls ∧
    answers c.wsStream.incoming =
      ((c.wsStream.incoming.takeWhile fun it => !it.ends).filterMap StreamItem.text?).map .text ++
        ((c.wsStream.incoming.find? StreamItem.ends).bind StreamItem.ending?).toList ∧
    (c.session calls).1.isConnected =
      (c.isConnected && !(c.session calls).2.contains (.error .connectionClosed)) ∧
    ((∀ v ∈ c.wsStream.sink, v = none) →
      (c.session calls).1.wsStream.sent =
        c.wsStream.sent ++ calls.map (fun k => .text (k.request c.peerId).toText) ∧
      ∀ i : Nat, (c.session calls).2[i]? = calls[i]?.map fun (k : Call) =>
        if k.receives then
          k.answerReply ((answers c.wsStream.incoming).getD ((calls.take i).countP Call.receives)
            .closed)
        else .ok .unit) := by
  have hv := SignalingClient.session_view c calls
  have h₁ : (c.session calls).1.view = (expectedSession c.peerId c.view calls).1 := congrArg Prod.fst hv
  have h₂ : (c.session calls).2 = (expectedSession c.peerId c.view calls).2 := congrArg Prod.snd hv
  refine ⟨hv, answers_eq _, ?_, fun hs => ⟨?_, fun i => ?_⟩⟩
  · simpa only [← h₁, ← h₂] using expectedSession_isConnected c.peerId c.view calls
  · simpa only [← h₁] using expectedSession_sent c.peerId c.view calls hs
  · rw [h₂]
    exact expectedSession_reply c.peerId c.view calls hs i

/-- A refused send shifts the answers. The sink refuses the first of two
`discover_peers`, which fails with `SendFailed` and reads nothing; the
second, the session's second receiving call, is answered by the stream's
first text frame (`Peers []`), not by its second (`Error`); and one request
went out for the two calls. -/
theorem refused_send_shifts_answers :
    let c : SignalingClient :=
      { wsStream := { incoming := [.frame (.text (SignalingMessage.peers []).toText),
                                   .frame (.text (SignalingMessage.error "busy" "later").toText)],
                      sink := [some "IO error"], sent := [] },
        peerId := "a", isConnected := true }
    (c.session [.discoverPeers "room", .discoverPeers "room"]).2 =
      [.error (.sendFailed "Failed to send message: IO error"), .ok (.peers [])] ∧
    (c.session [.discoverPeers "room", .discoverPeers "room"]).1.wsStream.sent =
      [.text (SignalingMessage.discover "room").toText] := by
  simp [SignalingClient.session, SignalingClient.call, SignalingClient.discoverPeers,
    SignalingClient.sendMessage, WsStream.send, SignalingClient.receiveMessage, receiveLoop,
    Received.result, SignalingMessage.fromText_toText, SignalingClient.peersReply, Except.map]

end Zks.Wire
