/-
Zks.Wire.P2pTheorems — what the peer table of `NativeP2PTransport` holds
after any prefix of the swarm's event stream, against the connections that
are open.

## How the proofs go

`get?_push` and `get?_remove` say what the two table operations do to one
key; `get?_handleEvent` lifts them to one turn of the loop. The table is
compared with two functions of the event history:

* `openConnections evs` — the connections `evs` opened and has not closed,
  the environment's own bookkeeping;
* `sinceLastClose evs p` — the addresses of the `ConnectionEstablished`
  events of `p` after the last `ConnectionClosed` of `p`.

`get?_runEvents` shows, by induction over the event stream from its end,
that the table's entry for `p` is exactly `sinceLastClose evs p`, and
`sinceLastClose_subperm` that those connections are all still open. So
the table never names a peer or an address that is not connected; the
converse fails as soon as a peer has two connections and one closes.
-/
import Mathlib
import Zks.Wire.P2p

namespace Zks.Wire

variable {PeerId Multiaddr : Type} [DecidableEq PeerId]

/-! ## The open connections -/

/-- An open connection: its id, its peer and its remote address. -/
structure Connection (PeerId Multiaddr : Type) where
  connectionId : Nat
  peerId : PeerId
  remoteAddress : Multiaddr
  deriving DecidableEq, Repr

/-- One event's effect on the open connections: `ConnectionEstablished`
opens one, `ConnectionClosed` closes the one it names. -/
def Connection.update (cs : List (Connection PeerId Multiaddr)) :
    SwarmEvent PeerId Multiaddr → List (Connection PeerId Multiaddr)
  | .connectionEstablished p id a => cs ++ [⟨id, p, a⟩]
  | .connectionClosed p id => cs.eraseP fun c => c.connectionId = id ∧ c.peerId = p
  | _ => cs

/-- The connections open after an event sequence. -/
def openConnections (evs : List (SwarmEvent PeerId Multiaddr)) :
    List (Connection PeerId Multiaddr) :=
  evs.foldl Connection.update []

/-- Every `ConnectionClosed` closes a connection that an earlier
`ConnectionEstablished` opened and that is not closed yet. -/
def closesOpenFrom (cs : List (Connection PeerId Multiaddr)) :
    List (SwarmEvent PeerId Multiaddr) → Bool
  | [] => true
  | e :: es =>
    (match e with
      | .connectionClosed p id => cs.any fun c => c.connectionId = id ∧ c.peerId = p
      | _ => true) && closesOpenFrom (Connection.update cs e) es

/-- The addresses of the open connections to `p`, with multiplicity. -/
def addressesOf (cs : List (Connection PeerId Multiaddr)) (p : PeerId) : List Multiaddr :=
  (cs.filter fun c => c.peerId = p).map Connection.remoteAddress

/-- Whether an event closes a connection to `p`. -/
def SwarmEvent.closes (p : PeerId) : SwarmEvent PeerId Multiaddr → Bool
  | .connectionClosed q _ => q = p
  | _ => false

/-- The address an event opens a connection to `p` at, if it does. -/
def SwarmEvent.establishedAt (p : PeerId) : SwarmEvent PeerId Multiaddr → Option Multiaddr
  | .connectionEstablished q _ a => if q = p then some a else none
  | _ => none

/-- The addresses of the connections to `p` established after the last
`ConnectionClosed` of `p`. -/
def sinceLastClose (evs : List (SwarmEvent PeerId Multiaddr)) (p : PeerId) : List Multiaddr :=
  ((evs.reverse.takeWhile fun e => !e.closes p).reverse).filterMap (SwarmEvent.establishedAt p)

/-! ## The table operations -/

namespace PeerTable

@[simp] theorem lookup_cons_ite {β : Type} (q k : PeerId) (v : β) (es : List (PeerId × β)) :
    ((k, v) :: es).lookup q = if q = k then some v else es.lookup q := by
  by_cases h : q = k <;> simp [List.lookup, h, beq_false_of_ne]

theorem lookup_pushAddr (p q : PeerId) (a : Multiaddr) (es : List (PeerId × List Multiaddr)) :
    (pushAddr p a es).lookup q =
      if q = p then some ((es.lookup p).getD [] ++ [a]) else es.lookup q := by
  induction es with
  | nil => simp [pushAddr]
  | cons e es ih =>
    obtain ⟨k, as⟩ := e
    by_cases hk : k = p
    · subst hk; by_cases h : q = k <;> simp [pushAddr, h]
    · by_cases h : q = k
      · subst h; simp [pushAddr, hk]
      · simp [pushAddr, hk, h, ih, Ne.symm hk]

theorem lookup_filter_ne (p q : PeerId) (es : List (PeerId × List Multiaddr)) :
    (es.filter fun e => e.1 ≠ p).lookup q = if q = p then none else es.lookup q := by
  induction es with
  | nil => simp
  | cons e es ih =>
    obtain ⟨k, as⟩ := e
    by_cases hk : k = p <;> by_cases h : q = k <;> simp_all [List.filter_cons, eq_comm]

@[simp] theorem get?_empty (q : PeerId) : (empty : PeerTable PeerId Multiaddr).get? q = none := rfl

@[simp] theorem get?_push (t : PeerTable PeerId Multiaddr) (p q : PeerId) (a : Multiaddr) :
    (t.push p a).get? q = if q = p then some ((t.get? p).getD [] ++ [a]) else t.get? q :=
  lookup_pushAddr p q a t.entries

@[simp] theorem get?_remove (t : PeerTable PeerId Multiaddr) (p q : PeerId) :
    (t.remove p).get? q = if q = p then none else t.get? q :=
  lookup_filter_ne p q t.entries

/-- `contains_key` is `get` finding an entry. -/
theorem isConnected_eq (t : PeerTable PeerId Multiaddr) (p : PeerId) :
    t.isConnected p = (t.get? p).isSome := by
  unfold isConnected get?
  induction t.entries with
  | nil => rfl
  | cons e es ih =>
    obtain ⟨k, as⟩ := e
    by_cases h : p = k <;> simp_all [eq_comm]

omit [DecidableEq PeerId] in
/-- `connected_peers()` lists each peer once. -/
theorem connectedPeers_nodup (t : PeerTable PeerId Multiaddr) : t.connectedPeers.Nodup := t.nodup

theorem mem_connectedPeers (t : PeerTable PeerId Multiaddr) (p : PeerId) :
    p ∈ t.connectedPeers ↔ t.isConnected p = true := by
  simp [connectedPeers, isConnected]

end PeerTable

/-! ## Runs -/

@[simp] theorem runEvents_nil (t : PeerTable PeerId Multiaddr) : runEvents t [] = t := rfl

theorem runEvents_append_singleton (t : PeerTable PeerId Multiaddr)
    (evs : List (SwarmEvent PeerId Multiaddr)) (e : SwarmEvent PeerId Multiaddr) :
    runEvents t (evs ++ [e]) = handleEvent (runEvents t evs) e := by
  induction evs generalizing t with
  | nil => rfl
  | cons e' evs ih => exact ih _

theorem sinceLastClose_append_singleton (evs : List (SwarmEvent PeerId Multiaddr))
    (e : SwarmEvent PeerId Multiaddr) (p : PeerId) :
    sinceLastClose (evs ++ [e]) p =
      if e.closes p then [] else sinceLastClose evs p ++ (e.establishedAt p).toList := by
  cases h : e.closes p <;> cases h' : e.establishedAt p <;>
    simp [sinceLastClose, List.takeWhile_cons, h, h']

/-- What one turn of the loop does to the entry of `p`. -/
theorem get?_handleEvent (t : PeerTable PeerId Multiaddr) (e : SwarmEvent PeerId Multiaddr)
    (p : PeerId) :
    (handleEvent t e).get? p =
      if e.closes p then none
      else match e.establishedAt p with
        | some a => some ((t.get? p).getD [] ++ [a])
        | none => t.get? p := by
  cases e with
  | connectionEstablished q id a => by_cases h : p = q <;> simp [handleEvent, SwarmEvent.closes,
      SwarmEvent.establishedAt, h, Ne.symm]
  | connectionClosed q id => by_cases h : p = q <;>
      simp [handleEvent, SwarmEvent.closes, SwarmEvent.establishedAt, h, Ne.symm]
  | _ => rfl

/-- **The table's entry for `p` is `sinceLastClose`**: the addresses of
the connections to `p` established since its last `ConnectionClosed`, and
no entry when there are none. -/
theorem get?_runEvents (evs : List (SwarmEvent PeerId Multiaddr)) (p : PeerId) :
    (runEvents .empty evs).get? p =
      if (sinceLastClose evs p).isEmpty then none else some (sinceLastClose evs p) := by
  induction evs using List.reverseRecOn with
  | nil => rfl
  | append_singleton evs e ih =>
    rw [runEvents_append_singleton, get?_handleEvent, sinceLastClose_append_singleton, ih]
    cases e.closes p
    · cases e.establishedAt p <;> by_cases h : sinceLastClose evs p = [] <;> simp [h]
    · rfl

/-- Deleting an element that a filter drops does not change the filter. -/
theorem filter_eraseP_of_disjoint {α : Type} {f g : α → Bool}
    (hf : ∀ c, f c = true → g c = false) (cs : List α) : (cs.eraseP f).filter g = cs.filter g := by
  induction cs with
  | nil => rfl
  | cons c cs ih =>
    by_cases hc : f c = true
    · simp [List.eraseP_cons, hc, hf c hc]
    · simp [List.eraseP_cons, hc, List.filter_cons, ih]

/-- **Every address the table lists is an open connection's**: the
connections established since `p`'s last `ConnectionClosed` are a
sub-multiset of those still open to `p`. -/
theorem sinceLastClose_subperm (evs : List (SwarmEvent PeerId Multiaddr)) (p : PeerId) :
    List.Subperm (sinceLastClose evs p) (addressesOf (openConnections evs) p) := by
  induction evs using List.reverseRecOn with
  | nil => exact List.Subperm.refl _
  | append_singleton evs e ih =>
    rw [sinceLastClose_append_singleton, openConnections, List.foldl_append, List.foldl_cons,
      List.foldl_nil, ← openConnections]
    cases e with
    | connectionEstablished q id a =>
      by_cases h : q = p
      · subst h
        simpa [SwarmEvent.closes, SwarmEvent.establishedAt, Connection.update, addressesOf] using
          (List.subperm_append_right [a]).2 ih
      · simpa [SwarmEvent.closes, SwarmEvent.establishedAt, Connection.update, addressesOf, h]
          using ih
    | connectionClosed q id =>
      by_cases h : q = p
      · simp [SwarmEvent.closes, h]
      · rw [Connection.update, addressesOf, filter_eraseP_of_disjoint (fun c hc => by
          simp only [decide_eq_true_eq] at hc; simp [hc.2, h]), ← addressesOf]
        simpa [SwarmEvent.closes, SwarmEvent.establishedAt, h] using ih
    | _ => simpa [SwarmEvent.closes, SwarmEvent.establishedAt, Connection.update] using ih

/-- **The table under-approximates the open connections.** After any
prefix of the event stream: the entry of `p` is the list of addresses of
the connections to `p` opened since `p`'s last `ConnectionClosed` (no entry
when there are none); that list is a sub-multiset of the addresses of the
connections open to `p`; a peer that `is_connected` reports has an open
connection; and `connected_peers()` names each peer once. -/
theorem peer_table_tracks_since_last_close (evs : List (SwarmEvent PeerId Multiaddr))
    (p : PeerId) :
    (runEvents .empty evs).get? p =
      (if (sinceLastClose evs p).isEmpty then none else some (sinceLastClose evs p)) ∧
    List.Subperm (sinceLastClose evs p) (addressesOf (openConnections evs) p) ∧
    ((runEvents .empty evs).isConnected p = true →
      ∃ c ∈ openConnections evs, c.peerId = p) ∧
    (runEvents .empty evs).connectedPeers.Nodup := by
  refine ⟨get?_runEvents evs p, sinceLastClose_subperm evs p, fun hc => ?_,
    PeerTable.connectedPeers_nodup _⟩
  rw [PeerTable.isConnected_eq, get?_runEvents] at hc
  split at hc
  · simp at hc
  next hne =>
    obtain ⟨a, ha⟩ := List.exists_mem_of_ne_nil _ (by simpa using hne)
    obtain ⟨c, hc, -⟩ := List.mem_map.1 ((sinceLastClose_subperm evs p).subset ha)
    exact ⟨c, (List.mem_filter.1 hc).1, by simpa using (List.mem_filter.1 hc).2⟩

/-- Two connections to one peer, then one of them closes: the peer leaves
the table while its other connection is open. -/
theorem peer_dropped_while_connection_open :
    closesOpenFrom []
        [.connectionEstablished "p" 1 "/ip4/10.0.0.1/tcp/4001",
          .connectionEstablished "p" 2 "/ip4/10.0.0.2/tcp/4001",
          .connectionClosed "p" 1] = true ∧
    addressesOf (openConnections
        [SwarmEvent.connectionEstablished "p" 1 "/ip4/10.0.0.1/tcp/4001",
          .connectionEstablished "p" 2 "/ip4/10.0.0.2/tcp/4001",
          .connectionClosed "p" 1]) "p" = ["/ip4/10.0.0.2/tcp/4001"] ∧
    (runEvents .empty
        [SwarmEvent.connectionEstablished "p" 1 "/ip4/10.0.0.1/tcp/4001",
          .connectionEstablished "p" 2 "/ip4/10.0.0.2/tcp/4001",
          .connectionClosed "p" 1]).isConnected "p" = false ∧
    (runEvents .empty
        [SwarmEvent.connectionEstablished "p" 1 "/ip4/10.0.0.1/tcp/4001",
          .connectionEstablished "p" 2 "/ip4/10.0.0.2/tcp/4001",
          .connectionClosed "p" 1]).connectedPeers = [] := by
  decide

end Zks.Wire
