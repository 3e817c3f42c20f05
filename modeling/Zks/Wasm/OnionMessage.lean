/-
Zks.Wasm.OnionMessage — the relay onion protocol's types and their JSON
text (`zks_wasm/src/onion_transport.rs`, `OnionCircuit`, `OnionHop`,
`OnionMessage`).

`OnionMessage` is `#[serde(tag = "type")]`: each message is one object
whose `"type"` entry names the variant, followed by the variant's fields in
declaration order. `Vec<u8>` fields are arrays of numbers and
`Option<String>` is `null` or a string.
-/
import Zks.Format.Serde

namespace Zks.Wasm

open Serde

/-- `OnionHop`: one link's routing target and key. -/
structure OnionHop where
  relayUrl : String
  peerId : String
  publicKey : List UInt8
  deriving DecidableEq, Repr

/-- `OnionCircuit`: `encryption_keys` is filled in as the circuit is
established. -/
structure OnionCircuit where
  circuitId : String
  hops : List OnionHop
  encryptionKeys : List (List UInt8)
  deriving DecidableEq, Repr

/-- `OnionMessage`. -/
inductive OnionMessage where
  | buildCircuit (circuitId : String) (hops : List OnionHop)
  | circuitBuilt (circuitId : String)
  | forwardData (circuitId : String) (data : List UInt8)
  | dataReceived (circuitId : String) (data : List UInt8)
  | tearDownCircuit (circuitId : String)
  | circuitTornDown (circuitId : String)
  | error (circuitId : Option String) (code message : String)
  deriving DecidableEq, Repr

/-! ## Writing -/

/-- The derived `Serialize` of `OnionHop`. -/
def OnionHop.toJson (h : OnionHop) : Json :=
  .object [("relay_url", .string h.relayUrl), ("peer_id", .string h.peerId),
    ("public_key", bytesJson h.publicKey)]

/-- The derived `Serialize` of `OnionMessage`. -/
def OnionMessage.toJson : OnionMessage → Json
  | .buildCircuit c hops => .object [(tagKey, .string "BuildCircuit"), ("circuit_id", .string c),
      ("hops", .array (hops.map OnionHop.toJson))]
  | .circuitBuilt c => .object [(tagKey, .string "CircuitBuilt"), ("circuit_id", .string c)]
  | .forwardData c d => .object [(tagKey, .string "ForwardData"), ("circuit_id", .string c),
      ("data", bytesJson d)]
  | .dataReceived c d => .object [(tagKey, .string "DataReceived"), ("circuit_id", .string c),
      ("data", bytesJson d)]
  | .tearDownCircuit c => .object [(tagKey, .string "TearDownCircuit"), ("circuit_id", .string c)]
  | .circuitTornDown c => .object [(tagKey, .string "CircuitTornDown"), ("circuit_id", .string c)]
  | .error c code msg => .object [(tagKey, .string "Error"),
      ("circuit_id", match c with | some s => .string s | none => .null),
      ("code", .string code), ("message", .string msg)]

/-- `serde_json::to_string(&message)`. -/
def OnionMessage.toText (m : OnionMessage) : String := m.toJson.toText

/-! ## Reading -/

/-- The fields of `OnionHop`, as its derived visitor reads them. -/
def OnionHop.fieldList : List Field :=
  [field "relay_url" string, field "peer_id" string, field "public_key" (vec u8)]

/-- The derived `Deserialize` of `OnionHop`. -/
def OnionHop.fromJson (j : Json) : Except String OnionHop := do
  let kvs ← structEntries "struct OnionHop" OnionHop.fieldList j
  let relayUrl ← required kvs "relay_url" string
  let peerId ← required kvs "peer_id" string
  let publicKey ← required kvs "public_key" (vec u8)
  pure { relayUrl, peerId, publicKey }

/-- The variant names, in declaration order. -/
def OnionMessage.variants : List String :=
  ["BuildCircuit", "CircuitBuilt", "ForwardData", "DataReceived", "TearDownCircuit",
    "CircuitTornDown", "Error"]

/-- The derived visitor of the variant named `tag`, on its content. -/
def OnionMessage.fields (tag : String) (content : Json) : Except String OnionMessage :=
  let entries := structEntries ("struct variant OnionMessage::" ++ tag)
  match tag with
  | "BuildCircuit" => do
    let kvs ← entries [field "circuit_id" string, field "hops" (vec OnionHop.fromJson)] content
    pure (.buildCircuit (← required kvs "circuit_id" string) (← required kvs "hops" (vec OnionHop.fromJson)))
  | "CircuitBuilt" => do
    let kvs ← entries [field "circuit_id" string] content
    pure (.circuitBuilt (← required kvs "circuit_id" string))
  | "ForwardData" => do
    let kvs ← entries [field "circuit_id" string, field "data" (vec u8)] content
    pure (.forwardData (← required kvs "circuit_id" string) (← required kvs "data" (vec u8)))
  | "DataReceived" => do
    let kvs ← entries [field "circuit_id" string, field "data" (vec u8)] content
    pure (.dataReceived (← required kvs "circuit_id" string) (← required kvs "data" (vec u8)))
  | "TearDownCircuit" => do
    let kvs ← entries [field "circuit_id" string] content
    pure (.tearDownCircuit (← required kvs "circuit_id" string))
  | "CircuitTornDown" => do
    let kvs ← entries [field "circuit_id" string] content
    pure (.circuitTornDown (← required kvs "circuit_id" string))
  | _ => do
    let kvs ← entries [optionField "circuit_id" string, field "code" string, field "message" string] content
    pure (.error (← optional kvs "circuit_id" string) (← required kvs "code" string)
      (← required kvs "message" string))

/-- `serde_json::from_str::<OnionMessage>(&text)`, its error as `Display`
writes it. -/
def OnionMessage.fromText (s : String) : Except String OnionMessage :=
  (fromStr "OnionMessage" OnionMessage.variants OnionMessage.fields s).mapError (Json.Error.display s)

end Zks.Wasm
