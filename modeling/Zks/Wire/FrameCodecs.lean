/-
Zks.Wire.FrameCodecs — a text frame of either wire protocol decodes to the
message it encodes.

`SignalingMessage.fromText_toText` and `OnionMessage.fromText_toText`: for
every message `m`, `serde_json::from_str(&serde_json::to_string(&m))` is
`Ok(m)`. This holds for every variant, for `PeerInfo` and `OnionHop` lists of
any length, for any strings, and for full-range `u64` fields.
`frame_codecs_lossless` states both.

## How the proofs go

`from_str` reads a frame in three stages, and `Serde.fromStr_toText` takes
the written text through all of them once three facts about the message
hold, which `fields_toJson` and `readable_toJson` give for every variant:

* the encoder writes the tag first, a variant name, and the fields under
  other keys;
* the tree is `Readable`: its integers are `u8`, `u32` or `u64` values and
  it nests six deep at most, within the budget left after the `{`;
* the variant's visitor reads the entries after the tag: the field list
  and the entries are related pointwise (`structEntries_object`), and the
  `required` lookups on the literal entries are computed by `simp`.
-/
import Mathlib
import Zks.Format.JsonTheorems
import Zks.Format.SerdeTheorems
import Zks.Wire.SignalingMessage
import Zks.Wasm.OnionMessage

namespace Zks

open Json Serde

/-! ## Readable trees -/

namespace Json

theorem readable_nat {n : Nat} (h : n < 2 ^ 64) (d : Nat) : Readable (d + 1) (.number n) :=
  .number (.inl ⟨by omega, by omega⟩)

theorem readable_object {d : Nat} {kvs : List (String × Json)}
    (h : List.Forall (fun kv => Readable (d + 1) kv.2) kvs) : Readable (d + 2) (.object kvs) :=
  .object fun kv hkv => List.forall_iff_forall_mem.1 h kv hkv

theorem readable_array_map {α : Type} {d : Nat} (f : α → Json) (xs : List α) (h : ∀ x, Readable (d + 1) (f x)) :
    Readable (d + 2) (.array (xs.map f)) :=
  .array fun y hy => by
    obtain ⟨x, -, rfl⟩ := List.mem_map.1 hy
    exact h x

theorem readable_bytesJson (b : List UInt8) (d : Nat) : Readable (d + 2) (bytesJson b) :=
  readable_array_map _ b fun x => readable_nat (x.toNat_lt_size.trans (by decide)) d

end Json

/-! ## Signaling frames -/

namespace Wire

@[simp] theorem vec_strings (ss : List String) : vec string (stringsJson ss) = .ok ss :=
  vec_map fun _ _ => rfl

theorem PeerCapabilities.fromJson_toJson (c : PeerCapabilities) : PeerCapabilities.fromJson c.toJson = .ok c := by
  have he : structEntries "struct PeerCapabilities" PeerCapabilities.fieldList c.toJson = .ok _ :=
    structEntries_object (.cons ⟨rfl, read_field (bool_bool _)⟩ <| .cons ⟨rfl, read_field (bool_bool _)⟩ <|
      .cons ⟨rfl, read_field (bool_bool _)⟩ <| .cons ⟨rfl, read_field (u64_number _)⟩ <|
      .cons ⟨rfl, read_field (vec_strings _)⟩ <| .cons ⟨rfl, read_field (u32_number _)⟩ .nil) (by decide)
  rw [PeerCapabilities.fromJson, he]
  simp only [ok_bind, required_cons, String.reduceEq, if_true, if_false, bool_bool, u64_number, u32_number,
    vec_strings]
  rfl

theorem PeerInfo.fromJson_toJson (p : PeerInfo) : PeerInfo.fromJson p.toJson = .ok p := by
  have he : structEntries "struct PeerInfo" PeerInfo.fieldList p.toJson = .ok _ :=
    structEntries_object (.cons ⟨rfl, read_field (string_string _)⟩ <| .cons ⟨rfl, read_field (vec_bytes _)⟩ <|
      .cons ⟨rfl, read_field p.capabilities.fromJson_toJson⟩ <| .cons ⟨rfl, read_field (u64_number _)⟩ <|
      .cons ⟨rfl, read_field (vec_strings _)⟩ .nil) (by decide)
  rw [PeerInfo.fromJson, he]
  simp only [ok_bind, required_cons, String.reduceEq, if_true, if_false, string_string, vec_bytes,
    PeerCapabilities.fromJson_toJson, u64_number, vec_strings]
  rfl

@[simp] theorem vec_peerInfos (ps : List PeerInfo) :
    vec PeerInfo.fromJson (.array (ps.map PeerInfo.toJson)) = .ok ps :=
  vec_map fun p _ => p.fromJson_toJson

theorem readable_stringsJson (ss : List String) (d : Nat) : Readable (d + 2) (stringsJson ss) :=
  readable_array_map _ ss fun s => .string s

theorem PeerCapabilities.readable_toJson (c : PeerCapabilities) (d : Nat) : Readable (d + 3) c.toJson :=
  readable_object ⟨.bool _, .bool _, .bool _, readable_nat c.maxMessageSize.toNat_lt_size _,
    readable_stringsJson _ _, readable_nat (c.maxHops.toNat_lt_size.trans (by decide)) _⟩

theorem PeerInfo.readable_toJson (p : PeerInfo) (d : Nat) : Readable (d + 4) p.toJson :=
  readable_object ⟨.string _, readable_bytesJson _ _, p.capabilities.readable_toJson _,
    readable_nat p.lastSeen.toNat_lt_size _, readable_stringsJson _ _⟩

/-- A signaling message's tree nests six deep at most: `Peers`, its list, a
`PeerInfo`, its capabilities, their protocol list, a protocol. -/
theorem SignalingMessage.readable_toJson (m : SignalingMessage) (d : Nat) : Readable (d + 6) m.toJson := by
  cases m with
  | join r p => exact readable_object ⟨.string _, .string _, p.readable_toJson _⟩
  | leave r => exact readable_object ⟨.string _, .string _⟩
  | discover r => exact readable_object ⟨.string _, .string _⟩
  | peers ps => exact readable_object ⟨.string _, readable_array_map _ ps fun p => p.readable_toJson _⟩
  | entropyRequest r q => exact readable_object ⟨.string _, .string _, .string _⟩
  | entropyResponse q e s =>
    exact readable_object ⟨.string _, .string _, readable_bytesJson _ _, readable_bytesJson _ _⟩
  | error c m => exact readable_object ⟨.string _, .string _, .string _⟩

/-- The variant's visitor reads the entries written after the tag. -/
theorem SignalingMessage.fields_toJson (m : SignalingMessage) :
    ∃ t kvs, m.toJson = .object ((tagKey, .string t) :: kvs) ∧ t ∈ SignalingMessage.variants ∧
      (∀ kv ∈ kvs, kv.1 ≠ tagKey) ∧ SignalingMessage.fields t (.object kvs) = .ok m := by
  cases m with
  | join r p =>
    refine ⟨_, _, rfl, by decide, by simp [tagKey], ?_⟩
    rw [SignalingMessage.fields, structEntries_object]
    · simp only [ok_bind, required_cons, String.reduceEq, if_true, if_false, string_string, PeerInfo.fromJson_toJson]
      rfl
    · exact .cons ⟨rfl, read_field (string_string r)⟩ <| .cons ⟨rfl, read_field p.fromJson_toJson⟩ .nil
    · decide
  | leave r =>
    refine ⟨_, _, rfl, by decide, by simp [tagKey], ?_⟩
    rw [SignalingMessage.fields, structEntries_object]
    · rfl
    · exact .cons ⟨rfl, read_field (string_string r)⟩ .nil
    · decide
  | discover r =>
    refine ⟨_, _, rfl, by decide, by simp [tagKey], ?_⟩
    rw [SignalingMessage.fields, structEntries_object]
    · rfl
    · exact .cons ⟨rfl, read_field (string_string r)⟩ .nil
    · decide
  | peers ps =>
    refine ⟨_, _, rfl, by decide, by simp [tagKey], ?_⟩
    rw [SignalingMessage.fields, structEntries_object]
    · simp only [ok_bind, required_cons, if_true, vec_peerInfos]
      rfl
    · exact .cons ⟨rfl, read_field (vec_peerInfos ps)⟩ .nil
    · decide
  | entropyRequest r q =>
    refine ⟨_, _, rfl, by decide, by simp [tagKey], ?_⟩
    rw [SignalingMessage.fields, structEntries_object]
    · rfl
    · exact .cons ⟨rfl, read_field (string_string r)⟩ <| .cons ⟨rfl, read_field (string_string q)⟩ .nil
    · decide
  | entropyResponse q e s =>
    refine ⟨_, _, rfl, by decide, by simp [tagKey], ?_⟩
    rw [SignalingMessage.fields, structEntries_object]
    · simp only [ok_bind, required_cons, String.reduceEq, if_true, if_false, string_string, vec_bytes]
      rfl
    · exact .cons ⟨rfl, read_field (string_string q)⟩ <| .cons ⟨rfl, read_field (vec_bytes e)⟩ <|
        .cons ⟨rfl, read_field (vec_bytes s)⟩ .nil
    · decide
  | error c m =>
    refine ⟨_, _, rfl, by decide, by simp [tagKey], ?_⟩
    rw [SignalingMessage.fields, structEntries_object]
    · rfl
    · exact .cons ⟨rfl, read_field (string_string c)⟩ <| .cons ⟨rfl, read_field (string_string m)⟩ .nil
    · decide
    -- the last arm is taken: `"Error"` names no other variant
    all_goals decide

theorem SignalingMessage.fromText_toText (m : SignalingMessage) : SignalingMessage.fromText m.toText = .ok m := by
  obtain ⟨t, kvs, he, ht, hk, hm⟩ := m.fields_toJson
  have hr := m.readable_toJson 122
  rw [he] at hr
  rw [SignalingMessage.fromText, SignalingMessage.toText, he, fromStr_toText _ ht hk hr hm]
  rfl

end Wire

/-! ## Relay onion frames -/

namespace Wasm

theorem OnionHop.fromJson_toJson (h : OnionHop) : OnionHop.fromJson h.toJson = .ok h := by
  have he : structEntries "struct OnionHop" OnionHop.fieldList h.toJson = .ok _ :=
    structEntries_object (.cons ⟨rfl, read_field (string_string _)⟩ <| .cons ⟨rfl, read_field (string_string _)⟩ <|
      .cons ⟨rfl, read_field (vec_bytes _)⟩ .nil) (by decide)
  rw [OnionHop.fromJson, he]
  simp only [ok_bind, required_cons, String.reduceEq, if_true, if_false, string_string, vec_bytes]
  rfl

@[simp] theorem vec_onionHops (hops : List OnionHop) :
    vec OnionHop.fromJson (.array (hops.map OnionHop.toJson)) = .ok hops :=
  vec_map fun h _ => h.fromJson_toJson

theorem OnionHop.readable_toJson (h : OnionHop) (d : Nat) : Readable (d + 3) h.toJson :=
  readable_object ⟨.string _, .string _, readable_bytesJson _ _⟩

/-- An onion message's tree nests five deep at most: `BuildCircuit`, its
hops, a hop, its key, a byte. -/
theorem OnionMessage.readable_toJson (m : OnionMessage) (d : Nat) : Readable (d + 5) m.toJson := by
  cases m with
  | buildCircuit c hops =>
    exact readable_object ⟨.string _, .string _, readable_array_map _ hops fun h => h.readable_toJson _⟩
  | circuitBuilt c => exact readable_object ⟨.string _, .string _⟩
  | forwardData c b => exact readable_object ⟨.string _, .string _, readable_bytesJson _ _⟩
  | dataReceived c b => exact readable_object ⟨.string _, .string _, readable_bytesJson _ _⟩
  | tearDownCircuit c => exact readable_object ⟨.string _, .string _⟩
  | circuitTornDown c => exact readable_object ⟨.string _, .string _⟩
  | error c code msg =>
    cases c with
    | none => exact readable_object ⟨.string _, .null, .string _, .string _⟩
    | some s => exact readable_object ⟨.string _, .string _, .string _, .string _⟩

/-- The variant's visitor reads the entries written after the tag. -/
theorem OnionMessage.fields_toJson (m : OnionMessage) :
    ∃ t kvs, m.toJson = .object ((tagKey, .string t) :: kvs) ∧ t ∈ OnionMessage.variants ∧
      (∀ kv ∈ kvs, kv.1 ≠ tagKey) ∧ OnionMessage.fields t (.object kvs) = .ok m := by
  cases m with
  | buildCircuit c hops =>
    refine ⟨_, _, rfl, by decide, by simp [tagKey], ?_⟩
    rw [OnionMessage.fields, structEntries_object]
    · simp only [ok_bind, required_cons, String.reduceEq, if_true, if_false, string_string, vec_onionHops]
      rfl
    · exact .cons ⟨rfl, read_field (string_string c)⟩ <| .cons ⟨rfl, read_field (vec_onionHops hops)⟩ .nil
    · decide
  | circuitBuilt c =>
    refine ⟨_, _, rfl, by decide, by simp [tagKey], ?_⟩
    rw [OnionMessage.fields, structEntries_object]
    · rfl
    · exact .cons ⟨rfl, read_field (string_string c)⟩ .nil
    · decide
  | forwardData c b =>
    refine ⟨_, _, rfl, by decide, by simp [tagKey], ?_⟩
    rw [OnionMessage.fields, structEntries_object]
    · simp only [ok_bind, required_cons, String.reduceEq, if_true, if_false, string_string, vec_bytes]
      rfl
    · exact .cons ⟨rfl, read_field (string_string c)⟩ <| .cons ⟨rfl, read_field (vec_bytes b)⟩ .nil
    · decide
  | dataReceived c b =>
    refine ⟨_, _, rfl, by decide, by simp [tagKey], ?_⟩
    rw [OnionMessage.fields, structEntries_object]
    · simp only [ok_bind, required_cons, String.reduceEq, if_true, if_false, string_string, vec_bytes]
      rfl
    · exact .cons ⟨rfl, read_field (string_string c)⟩ <| .cons ⟨rfl, read_field (vec_bytes b)⟩ .nil
    · decide
  | tearDownCircuit c =>
    refine ⟨_, _, rfl, by decide, by simp [tagKey], ?_⟩
    rw [OnionMessage.fields, structEntries_object]
    · rfl
    · exact .cons ⟨rfl, read_field (string_string c)⟩ .nil
    · decide
  | circuitTornDown c =>
    refine ⟨_, _, rfl, by decide, by simp [tagKey], ?_⟩
    rw [OnionMessage.fields, structEntries_object]
    · rfl
    · exact .cons ⟨rfl, read_field (string_string c)⟩ .nil
    · decide
  | error c code msg =>
    refine ⟨_, _, rfl, by decide, by simp [tagKey], ?_⟩
    have hc : option string (match c with | some s => .string s | none => .null) = .ok c := by cases c <;> rfl
    rw [OnionMessage.fields, structEntries_object]
    · cases c <;> rfl
    · exact .cons ⟨rfl, read_optionField hc⟩ <| .cons ⟨rfl, read_field (string_string code)⟩ <|
        .cons ⟨rfl, read_field (string_string msg)⟩ .nil
    · decide
    -- the last arm is taken: `"Error"` names no other variant
    all_goals decide

theorem OnionMessage.fromText_toText (m : OnionMessage) : OnionMessage.fromText m.toText = .ok m := by
  obtain ⟨t, kvs, he, ht, hk, hm⟩ := m.fields_toJson
  have hr := m.readable_toJson 123
  rw [he] at hr
  rw [OnionMessage.fromText, OnionMessage.toText, he, fromStr_toText _ ht hk hr hm]
  rfl

end Wasm

/-- **The text-frame codecs of both wire protocols are lossless**: every
signaling message and every relay onion message decodes from its JSON text
to itself. -/
theorem frame_codecs_lossless :
    (∀ m : Wire.SignalingMessage, Wire.SignalingMessage.fromText m.toText = .ok m) ∧
      ∀ m : Wasm.OnionMessage, Wasm.OnionMessage.fromText m.toText = .ok m :=
  ⟨Wire.SignalingMessage.fromText_toText, Wasm.OnionMessage.fromText_toText⟩

end Zks
