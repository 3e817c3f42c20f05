/-
Zks.Wire.P2p — the peer table of `NativeP2PTransport`
(`zks_wire/src/p2p.rs`).

`run` is an endless loop over the swarm's events; two of its arms touch
the shared table `connected_peers : HashMap<PeerId, Vec<Multiaddr>>`, the
others only log:

* `ConnectionEstablished` appends the connection's remote address to the
  peer's entry, creating the entry if there is none
  (`entry(peer_id).or_default().push(..)`);
* `ConnectionClosed` removes the peer's entry (`remove(&peer_id)`), whatever
  other connections to the peer are still open.

The table is an association list whose keys are distinct (`PeerTable`
carries that as a field, as a `HashMap` does); `connected_peers()` lists the
keys and `is_connected(p)` asks whether `p` is one. A loop over a finite
prefix of the event stream is `runEvents`. The `PeerId` and `Multiaddr`
types are parameters: the table only compares peer ids.
-/

namespace Zks.Wire

/-- The swarm events `run` matches on, with the fields it reads. The arms
that only log (`IncomingConnection`, `IncomingConnectionError`, `Dialing`,
`OutgoingConnectionError` and the wildcard) are `other`. -/
inductive SwarmEvent (PeerId Multiaddr : Type) where
  | newListenAddr (address : Multiaddr)
  | behaviour
  | connectionEstablished (peerId : PeerId) (connectionId : Nat) (remoteAddress : Multiaddr)
  | connectionClosed (peerId : PeerId) (connectionId : Nat)
  | other
  deriving DecidableEq, Repr

variable {PeerId Multiaddr : Type} [DecidableEq PeerId]

/-- `entry(p).or_default().push(a)` on the entries of a map. -/
def pushAddr (p : PeerId) (a : Multiaddr) :
    List (PeerId × List Multiaddr) → List (PeerId × List Multiaddr)
  | [] => [(p, [a])]
  | (q, as) :: rest => if q = p then (q, as ++ [a]) :: rest else (q, as) :: pushAddr p a rest

theorem keys_pushAddr (p : PeerId) (a : Multiaddr) (es : List (PeerId × List Multiaddr)) :
    (pushAddr p a es).map Prod.fst =
      if p ∈ es.map Prod.fst then es.map Prod.fst else es.map Prod.fst ++ [p] := by
  induction es with
  | nil => rfl
  | cons e es ih =>
    obtain ⟨q, as⟩ := e
    by_cases hq : q = p
    · simp [pushAddr, hq]
    · by_cases hp : p ∈ es.map Prod.fst <;> simp_all [pushAddr, Ne.symm hq]

/-- `HashMap<PeerId, Vec<Multiaddr>>`: an association list with distinct
keys. -/
structure PeerTable (PeerId Multiaddr : Type) where
  entries : List (PeerId × List Multiaddr)
  nodup : (entries.map Prod.fst).Nodup

namespace PeerTable

/-- `HashMap::new()`. -/
def empty : PeerTable PeerId Multiaddr := ⟨[], List.nodup_nil⟩

/-- `peers.entry(p).or_default().push(a)`. -/
def push (t : PeerTable PeerId Multiaddr) (p : PeerId) (a : Multiaddr) :
    PeerTable PeerId Multiaddr where
  entries := pushAddr p a t.entries
  nodup := by
    rw [keys_pushAddr]
    split
    · exact t.nodup
    · exact List.pairwise_append.2 ⟨t.nodup, List.pairwise_singleton _ p,
        fun q hq _ hp => by cases List.mem_singleton.1 hp; exact fun h => ‹p ∉ _› (h ▸ hq)⟩

/-- `peers.remove(&p)`. -/
def remove (t : PeerTable PeerId Multiaddr) (p : PeerId) : PeerTable PeerId Multiaddr where
  entries := t.entries.filter fun e => e.1 ≠ p
  nodup := t.nodup.sublist ((List.filter_sublist _).map _)

/-- `peers.get(&p)`. -/
def get? (t : PeerTable PeerId Multiaddr) (p : PeerId) : Option (List Multiaddr) :=
  t.entries.lookup p

/-- `connected_peers()`: the keys. -/
def connectedPeers (t : PeerTable PeerId Multiaddr) : List PeerId := t.entries.map Prod.fst

/-- `is_connected(p)`: `contains_key`. -/
def isConnected (t : PeerTable PeerId Multiaddr) (p : PeerId) : Bool :=
  t.entries.any fun e => e.1 = p

end PeerTable

/-- One turn of `NativeP2PTransport::run`'s loop, on the table. -/
def handleEvent (peers : PeerTable PeerId Multiaddr) :
    SwarmEvent PeerId Multiaddr → PeerTable PeerId Multiaddr
  | .connectionEstablished p _ addr => peers.push p addr
  | .connectionClosed p _ => peers.remove p
  | _ => peers

/-- The table after `run` has handled a prefix of the event stream. -/
def runEvents (peers : PeerTable PeerId Multiaddr) : List (SwarmEvent PeerId Multiaddr) →
    PeerTable PeerId Multiaddr
  | [] => peers
  | e :: es => runEvents (handleEvent peers e) es

end Zks.Wire
