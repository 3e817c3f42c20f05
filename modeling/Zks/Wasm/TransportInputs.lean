/-
Zks.Wasm.TransportInputs — what the browser transports make of the strings
they are given: hop descriptors (`build_circuit`) and relay URLs
(`convert_relay_url`, `convert_zk_url`).

* `hop_descriptor_grammar` — a descriptor parses exactly when it is three
  comma-free fields joined by two commas, the third the canonical padded
  base64 of a key, and it parses to those fields and that key; every hop
  whose URL and peer id hold no comma reads back from its descriptor.
* `circuit_built_unchecked` — `build_circuit` bounds neither the number
  of hops nor the effect of a failed send: an empty list is a circuit, and
  a circuit stays stored when its `BuildCircuit` cannot be sent, for want
  of a socket or on one still `CONNECTING`.
* `scheme_rewrite_reaches_rest` — the normalisers rewrite the scheme of a
  URL and every later occurrence of it, since `str::replace` replaces all
  matches.

## How the proofs go

`parseHop_str_eq_ok` unfolds the parser once: a split into three pieces
(`Text.splitChar_eq_three`) and a key that decodes, which by
`Base64.decode_eq_ok_iff` is the key's encoding. The URL theorems split
each input into its scheme and the rest: `Text.replaceAll_pat_append`
replaces the scheme, `Text.replaceAll_append_of_head_not_mem` passes over
a scheme that cannot start a match.
-/
import Mathlib
import Zks.Wasm.OnionTransportTheorems
import Zks.Format.TextTheorems
import Zks.Format.Base64Theorems

namespace Zks.Wasm

open Text

/-! ## Hop descriptors -/

theorem comma_not_mem_encode (b : List UInt8) : ',' ∉ Base64.encode b := by
  intro h
  rcases Base64.mem_encode h with h | ⟨v, hv, h⟩
  · exact absurd h (by decide)
  · exact absurd h ((by decide : ∀ v, v < 64 → Base64.symbolChar v ≠ ',') v hv)

/-- One descriptor parses to `h` exactly when it splits into three fields
and its third field decodes to `h`'s key. -/
theorem parseHop_str_eq_ok (s : String) (h : OnionHop) :
    parseHop (.str s) = .ok h ↔
      ∃ url peer key, splitChar ',' s.toList = [url, peer, key] ∧ Base64.decode key = .ok h.publicKey ∧
        h.relayUrl = String.mk url ∧ h.peerId = String.mk peer := by
  constructor
  · intro hp
    simp only [parseHop] at hp
    split at hp
    · rename_i url peer key hs
      split at hp <;> cases hp
      exact ⟨url, peer, key, hs, ‹_›, rfl, rfl⟩
    · cases hp
  · rintro ⟨url, peer, key, hs, hk, hu, hp⟩
    obtain ⟨u, p, k⟩ := h
    dsimp only at hu hp hk
    subst hu hp
    simp only [parseHop, hs, hk]

/-- **The hop-descriptor grammar.** A descriptor parses to `h` exactly when
it is a string of three comma-free fields joined by two commas, whose third
field is the canonical padded base64 of `h`'s key and whose first two are
`h`'s relay URL and peer id. So every hop whose URL and peer id hold no
comma reads back from its descriptor. -/
theorem hop_descriptor_grammar :
    (∀ (d : HopArg) (h : OnionHop), parseHop d = .ok h ↔
      ∃ s url peer key, d = .str s ∧ s.toList = url ++ ',' :: (peer ++ ',' :: key) ∧
        ',' ∉ url ∧ ',' ∉ peer ∧ key = Base64.encode h.publicKey ∧
        h.relayUrl = String.mk url ∧ h.peerId = String.mk peer) ∧
    ∀ h : OnionHop, ',' ∉ h.relayUrl.toList → ',' ∉ h.peerId.toList →
      parseHop (.str (h.relayUrl ++ "," ++ h.peerId ++ "," ++ String.mk (Base64.encode h.publicKey))) = .ok h := by
  refine ⟨fun d h => ?_, fun h hu hp => ?_⟩
  · cases d with
    | other => simp [parseHop]
    | str s =>
      rw [parseHop_str_eq_ok]
      constructor
      · rintro ⟨url, peer, key, hs, hk, hu, hp⟩
        obtain ⟨hl, hu', hp', -⟩ := (splitChar_eq_three ',').1 hs
        exact ⟨s, url, peer, key, rfl, hl, hu', hp', (Base64.decode_eq_ok_iff _ _).1 hk, hu, hp⟩
      · rintro ⟨s', url, peer, key, ⟨⟩, hl, hu, hp, rfl, hu', hp'⟩
        exact ⟨url, peer, _, (splitChar_eq_three ',').2 ⟨hl, hu, hp, comma_not_mem_encode _⟩,
          Base64.decode_encode _, hu', hp'⟩
  · rw [parseHop_str_eq_ok]
    refine ⟨h.relayUrl.toList, h.peerId.toList, _, (splitChar_eq_three ',').2 ⟨?_, hu, hp,
      comma_not_mem_encode _⟩, Base64.decode_encode _, rfl, rfl⟩
    show (h.relayUrl ++ "," ++ h.peerId ++ "," ++ String.mk _).data = _
    simp [String.toList]

/-! ## Building a circuit -/

namespace BrowserOnionTransport

/-- The circuit `threeHops` describes, under id `id`. -/
def threeHopCircuit (id : String) : OnionCircuit :=
  ⟨id, [⟨"wss://r1", "p1", [65]⟩, ⟨"wss://r2", "p2", [65, 66]⟩, ⟨"wss://r3", "p3", [65, 66, 67]⟩], []⟩

theorem parseHops_threeHops : parseHops threeHops = .ok (threeHopCircuit "").hops := rfl

/-- `build_circuit` bounds neither the number of hops nor the effect of a
failed send. With the current socket `OPEN`, the empty list of descriptors
gives `Ok(id)`, a stored circuit with no hop and a `BuildCircuit` with no
hop on the wire. With the current socket still `CONNECTING`, or with none,
three well-formed descriptors give `Err` and leave their circuit stored. -/
theorem circuit_built_unchecked (t : BrowserOnionTransport) (sock₁ sock₂ : Nat) (id : String)
    (h₁ : readyState t.sockets sock₁ = .opened) (h₂ : readyState t.sockets sock₂ = .connecting) :
    buildCircuit { t with websocket := some sock₁ } [] id =
      ({ t with websocket := some sock₁, circuits := insertCircuit t.circuits id ⟨id, [], []⟩ },
       [.sent sock₁ (.buildCircuit id []), .returned (.ok (.circuitId id))]) ∧
    buildCircuit { t with websocket := some sock₂ } threeHops id =
      ({ t with websocket := some sock₂, circuits := insertCircuit t.circuits id (threeHopCircuit id) },
       [.returned (.error "InvalidStateError")]) ∧
    buildCircuit { t with websocket := none } threeHops id =
      ({ t with websocket := none, circuits := insertCircuit t.circuits id (threeHopCircuit id) },
       [.returned (.error "Not connected to relay")]) := by
  refine ⟨?_, ?_, by simp only [buildCircuit, parseHops_threeHops]; rfl⟩
  · simp only [buildCircuit, parseHops, List.mapM_nil]
    simp [afterSend, sendOnionMessage, h₁, ReadyState.send]
  · simp only [buildCircuit, parseHops_threeHops]
    simp [afterSend, sendOnionMessage, h₂, ReadyState.send, threeHopCircuit]

/-- Socket 0 open and socket 1 still connecting. -/
theorem circuit_built_unchecked_two_sockets :
    readyState [.opened, .connecting] 0 = .opened ∧ readyState [.opened, .connecting] 1 = .connecting ∧
    buildCircuit { new "relay" 3 with sockets := [.opened, .connecting], websocket := some 0 } [] "c" =
      ({ new "relay" 3 with
          sockets := [.opened, .connecting], websocket := some 0,
          circuits := insertCircuit (new "relay" 3).circuits "c" ⟨"c", [], []⟩ },
       [.sent 0 (.buildCircuit "c" []), .returned (.ok (.circuitId "c"))]) ∧
    buildCircuit { new "relay" 3 with sockets := [.opened, .connecting], websocket := some 1 } threeHops "c" =
      ({ new "relay" 3 with
          sockets := [.opened, .connecting], websocket := some 1,
          circuits := insertCircuit (new "relay" 3).circuits "c" (threeHopCircuit "c") },
       [.returned (.error "InvalidStateError")]) ∧
    buildCircuit { new "relay" 3 with sockets := [.opened, .connecting], websocket := none } threeHops "c" =
      ({ new "relay" 3 with
          sockets := [.opened, .connecting], websocket := none,
          circuits := insertCircuit (new "relay" 3).circuits "c" (threeHopCircuit "c") },
       [.returned (.error "Not connected to relay")]) :=
  ⟨rfl, rfl, circuit_built_unchecked { new "relay" 3 with sockets := [.opened, .connecting] } 0 1 "c" rfl rfl⟩

end BrowserOnionTransport

/-! ## Relay URLs -/

theorem startsWith_append (pre r : String) : startsWith (pre ++ r) pre = true :=
  List.isPrefixOf_iff_prefix.2 (List.prefix_append _ _)

/-- `zk://` does not start inside `zks://`. -/
theorem replaceAll_zks (r : String) :
    replaceAll ("zks://" ++ r) "zk://" "ws://" = "zks://" ++ replaceAll r "zk://" "ws://" := by
  have hlen : ("zks://" ++ r).length = (r.toList.length + 5) + 1 := by
    rw [String.length_append]
    show 6 + r.toList.length = _
    omega
  have hz : "zk://".toList = 'z' :: "k://".toList := rfl
  have hp : ('z' :: "k://".toList).isPrefixOf ('z' :: ("ks://".toList ++ r.toList)) = false := rfl
  have h5 : "ks://".toList.length = 5 := rfl
  unfold replaceAll
  rw [hlen, show ("zks://" ++ r).toList = 'z' :: ("ks://".toList ++ r.toList) from rfl, hz,
    replaceAux_cons_of_no_match _ _ hp, replaceAux_append_of_head_not_mem _ (by decide) _ (by omega),
    h5, Nat.add_sub_cancel, replaceAux_fuel _ _ (Nat.le_refl _)]
  rfl

theorem convertZkUrl_append {pre : String} (hz : 'z' ∉ pre.toList) (r : String) :
    convertZkUrl (pre ++ r) = pre ++ convertZkUrl r := by
  simp only [convertZkUrl, replaceAll_append_of_head_not_mem rfl hz]

/-- **The URL normalisers rewrite the scheme, and every later occurrence
of it.** For every rest `r` of a URL: `convert_relay_url` rewrites an
`http://` or `https://` scheme and every `http://` (or `https://`) in `r`,
and leaves `ws://` and `wss://` URLs as they are; `convert_zk_url` rewrites
a `zk://` or `zks://` scheme, keeps a `ws://` or `wss://` one, and in every
case rewrites `r` as it would rewrite `r` alone. The rest is kept exactly
when the scheme text does not occur in it. -/
theorem scheme_rewrite_reaches_rest (r : String) :
    convertRelayUrl ("http://" ++ r) = "ws://" ++ replaceAll r "http://" "ws://" ∧
    convertRelayUrl ("https://" ++ r) = "wss://" ++ replaceAll r "https://" "wss://" ∧
    convertRelayUrl ("ws://" ++ r) = "ws://" ++ r ∧
    convertRelayUrl ("wss://" ++ r) = "wss://" ++ r ∧
    convertZkUrl ("zk://" ++ r) = "ws://" ++ convertZkUrl r ∧
    convertZkUrl ("zks://" ++ r) = "wss://" ++ convertZkUrl r ∧
    convertZkUrl ("ws://" ++ r) = "ws://" ++ convertZkUrl r ∧
    convertZkUrl ("wss://" ++ r) = "wss://" ++ convertZkUrl r ∧
    (¬ "http://".toList <:+: r.toList → replaceAll r "http://" "ws://" = r) ∧
    (¬ "https://".toList <:+: r.toList → replaceAll r "https://" "wss://" = r) ∧
    (¬ "zk://".toList <:+: r.toList → ¬ "zks://".toList <:+: r.toList → convertZkUrl r = r) := by
  refine ⟨?_, ?_, by simp [convertRelayUrl, startsWith_append], ?_, ?_, ?_,
    convertZkUrl_append (by decide) r, convertZkUrl_append (by decide) r,
    fun h => replaceAll_of_no_occurrence h _, fun h => replaceAll_of_no_occurrence h _,
    fun h₁ h₂ => by rw [convertZkUrl, replaceAll_of_no_occurrence h₁, replaceAll_of_no_occurrence h₂]⟩
  · have h₁ : startsWith ("http://" ++ r) "ws://" = false := rfl
    have h₂ : startsWith ("http://" ++ r) "wss://" = false := rfl
    simp [convertRelayUrl, h₁, h₂, startsWith_append, replaceAll_pat_append (by decide : ("http://" : String) ≠ "")]
  · have h₁ : startsWith ("https://" ++ r) "ws://" = false := rfl
    have h₂ : startsWith ("https://" ++ r) "wss://" = false := rfl
    have h₃ : startsWith ("https://" ++ r) "http://" = false := rfl
    simp [convertRelayUrl, h₁, h₂, h₃, startsWith_append,
      replaceAll_pat_append (by decide : ("https://" : String) ≠ "")]
  · have h₁ : startsWith ("wss://" ++ r) "ws://" = false := rfl
    simp [convertRelayUrl, h₁, startsWith_append]
  · rw [convertZkUrl, replaceAll_pat_append (by decide),
      replaceAll_append_of_head_not_mem rfl (by decide)]
    rfl
  · rw [convertZkUrl, replaceAll_zks, replaceAll_pat_append (by decide)]
    rfl

/- A scheme string later in the URL is rewritten too: a fallback `http://`
URL in the query of a relay URL, and a `zk://` URL in the query of a
`wss://` URL. -/
example :
    convertRelayUrl "http://relay.example/?fallback=http://backup" = "ws://relay.example/?fallback=ws://backup" ∧
    convertZkUrl "wss://relay.example/?via=zk://peer" = "wss://relay.example/?via=ws://peer" := by
  decide

end Zks.Wasm
