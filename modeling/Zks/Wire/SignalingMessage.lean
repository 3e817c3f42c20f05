/-
Zks.Wire.SignalingMessage — the signaling protocol's types and their JSON
text (`zks_wire/src/signaling.rs`, `PeerInfo`, `PeerCapabilities`,
`SignalingMessage`).

`SignalingMessage` is `#[serde(tag = "type")]`: each message is one object
whose `"type"` entry names the variant, followed by the variant's fields in
declaration order. `u64` and `usize` (64 bits on the native targets) are
`UInt64`, `u32` is `UInt32`, `Vec<u8>` an array of numbers.
-/
import Zks.Format.Serde

namespace Zks.Wire

open Serde

/-- `PeerCapabilities`. -/
structure PeerCapabilities where
  supportsP2p : Bool
  supportsRelay : Bool
  supportsOnionRouting : Bool
  maxMessageSize : UInt64
  supportedProtocols : List String
  maxHops : UInt32
  deriving DecidableEq, Repr

/-- `PeerCapabilities::default()`. -/
def PeerCapabilities.default : PeerCapabilities where
  supportsP2p := true
  supportsRelay := true
  supportsOnionRouting := false
  maxMessageSize := 65536
  supportedProtocols := ["zks/1.0"]
  maxHops := 3

/-- `PeerInfo`. -/
structure PeerInfo where
  peerId : String
  publicKey : List UInt8
  capabilities : PeerCapabilities
  lastSeen : UInt64
  addresses : List String
  deriving DecidableEq, Repr

/-- `SignalingMessage`. -/
inductive SignalingMessage where
  | join (roomId : String) (peerInfo : PeerInfo)
  | leave (roomId : String)
  | discover (roomId : String)
  | peers (peers : List PeerInfo)
  | entropyRequest (roomId requestId : String)
  | entropyResponse (requestId : String) (entropy signature : List UInt8)
  | error (code message : String)
  deriving DecidableEq, Repr

/-! ## Writing -/

/-- A `Vec<String>`. -/
def stringsJson (ss : List String) : Json := .array (ss.map .string)

/-- The derived `Serialize` of `PeerCapabilities`. -/
def PeerCapabilities.toJson (c : PeerCapabilities) : Json :=
  .object [("supports_p2p", .bool c.supportsP2p), ("supports_relay", .bool c.supportsRelay),
    ("supports_onion_routing", .bool c.supportsOnionRouting),
    ("max_message_size", .number c.maxMessageSize.toNat),
    ("supported_protocols", stringsJson c.supportedProtocols),
    ("max_hops", .number c.maxHops.toNat)]

/-- The derived `Serialize` of `PeerInfo`. -/
def PeerInfo.toJson (p : PeerInfo) : Json :=
  .object [("peer_id", .string p.peerId), ("public_key", bytesJson p.publicKey),
    ("capabilities", p.capabilities.toJson), ("last_seen", .number p.lastSeen.toNat),
    ("addresses", stringsJson p.addresses)]

/-- The derived `Serialize` of `SignalingMessage`. -/
def SignalingMessage.toJson : SignalingMessage → Json
  | .join r p => .object [(tagKey, .string "Join"), ("room_id", .string r),
      ("peer_info", p.toJson)]
  | .leave r => .object [(tagKey, .string "Leave"), ("room_id", .string r)]
  | .discover r => .object [(tagKey, .string "Discover"), ("room_id", .string r)]
  | .peers ps => .object [(tagKey, .string "Peers"), ("peers", .array (ps.map PeerInfo.toJson))]
  | .entropyRequest r q => .object [(tagKey, .string "EntropyRequest"), ("room_id", .string r),
      ("request_id", .string q)]
  | .entropyResponse q e s => .object [(tagKey, .string "EntropyResponse"),
      ("request_id", .string q), ("entropy", bytesJson e), ("signature", bytesJson s)]
  | .error c m => .object [(tagKey, .string "Error"), ("code", .string c), ("message", .string m)]

/-- `serde_json::to_string(&message)`. -/
def SignalingMessage.toText (m : SignalingMessage) : String := m.toJson.toText

/-! ## Reading -/

/-- The fields of `PeerCapabilities`, as its derived visitor reads them. -/
def PeerCapabilities.fieldList : List Field :=
  [field "supports_p2p" bool, field "supports_relay" bool, field "supports_onion_routing" bool,
    field "max_message_size" u64, field "supported_protocols" (vec string), field "max_hops" u32]

/-- The derived `Deserialize` of `PeerCapabilities`. -/
def PeerCapabilities.fromJson (j : Json) : Except String PeerCapabilities := do
  let kvs ← structEntries "struct PeerCapabilities" PeerCapabilities.fieldList j
  let supportsP2p ← required kvs "supports_p2p" bool
  let supportsRelay ← required kvs "supports_relay" bool
  let supportsOnionRouting ← required kvs "supports_onion_routing" bool
  let maxMessageSize ← required kvs "max_message_size" u64
  let supportedProtocols ← required kvs "supported_protocols" (vec string)
  let maxHops ← required kvs "max_hops" u32
  pure { supportsP2p, supportsRelay, supportsOnionRouting, maxMessageSize, supportedProtocols,
         maxHops }

/-- The fields of `PeerInfo`. -/
def PeerInfo.fieldList : List Field :=
  [field "peer_id" string, field "public_key" (vec u8), field "capabilities" PeerCapabilities.fromJson,
    field "last_seen" u64, field "addresses" (vec string)]

/-- The derived `Deserialize` of `PeerInfo`. -/
def PeerInfo.fromJson (j : Json) : Except String PeerInfo := do
  let kvs ← structEntries "struct PeerInfo" PeerInfo.fieldList j
  let peerId ← required kvs "peer_id" string
  let publicKey ← required kvs "public_key" (vec u8)
  let capabilities ← required kvs "capabilities" PeerCapabilities.fromJson
  let lastSeen ← required kvs "last_seen" u64
  let addresses ← required kvs "addresses" (vec string)
  pure { peerId, publicKey, capabilities, lastSeen, addresses }

/-- The variant names, in declaration order. -/
def SignalingMessage.variants : List String :=
  ["Join", "Leave", "Discover", "Peers", "EntropyRequest", "EntropyResponse", "Error"]

/-- The derived visitor of the variant named `tag`, on its content. -/
def SignalingMessage.fields (tag : String) (content : Json) : Except String SignalingMessage :=
  let entries := structEntries ("struct variant SignalingMessage::" ++ tag)
  match tag with
  | "Join" => do
    let kvs ← entries [field "room_id" string, field "peer_info" PeerInfo.fromJson] content
    pure (.join (← required kvs "room_id" string) (← required kvs "peer_info" PeerInfo.fromJson))
  | "Leave" => do
    let kvs ← entries [field "room_id" string] content
    pure (.leave (← required kvs "room_id" string))
  | "Discover" => do
    let kvs ← entries [field "room_id" string] content
    pure (.discover (← required kvs "room_id" string))
  | "Peers" => do
    let kvs ← entries [field "peers" (vec PeerInfo.fromJson)] content
    pure (.peers (← required kvs "peers" (vec PeerInfo.fromJson)))
  | "EntropyRequest" => do
    let kvs ← entries [field "room_id" string, field "request_id" string] content
    pure (.entropyRequest (← required kvs "room_id" string) (← required kvs "request_id" string))
  | "EntropyResponse" => do
    let kvs ← entries [field "request_id" string, field "entropy" (vec u8), field "signature" (vec u8)] content
    pure (.entropyResponse (← required kvs "request_id" string) (← required kvs "entropy" (vec u8))
      (← required kvs "signature" (vec u8)))
  | _ => do
    let kvs ← entries [field "code" string, field "message" string] content
    pure (.error (← required kvs "code" string) (← required kvs "message" string))

/-- `serde_json::from_str::<SignalingMessage>(&text)`, its error as
`Display` writes it. -/
def SignalingMessage.fromText (s : String) : Except String SignalingMessage :=
  (fromStr "SignalingMessage" SignalingMessage.variants SignalingMessage.fields s).mapError (Json.Error.display s)

end Zks.Wire
