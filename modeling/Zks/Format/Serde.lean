/-
Zks.Format.Serde — what `#[derive(Serialize, Deserialize)]` makes of the
protocol types over `Zks.Json`, and `serde_json::from_str` for an internally
tagged enum.

A derived `Serialize` writes a struct as an object of its fields in
declaration order; `#[serde(tag = "type")]` puts the variant name first
under the key `"type"`.

`from_str::<T>` for a `#[serde(tag = "type")]` enum reads in three stages
(`fromStr`):

* the tag stage (`parseTagged`): serde_json's `deserialize_any` drives
  serde's `TaggedContentVisitor` over the text. An object is read entry by
  entry, the `"type"` entry through the derived variant identifier (a
  string naming a variant) and the others buffered as content; a second
  `"type"`, or none, is an error. An array's first element is the tag and
  the others are the content. Any other value is the wrong type. The tag's
  errors are raised where the reader is, among the syntax errors, so the
  first fault in the text is the one reported;
* the content stage: the variant's derived visitor reads its fields from
  the buffered content, an object (`visitMap`: the entries in their order,
  a field seen twice or read as the wrong type, then the first missing
  field in declaration order) or an array (`visitSeq`: the fields in order,
  then the length). Its errors are serde's messages, without a position;
* `Deserializer::end`: nothing but whitespace may follow.

serde's messages are its `Display` texts (`missingField`, `invalidType`
with `Unexpected`, and so on), a string shown as Rust's `Debug` writes it.
DEVIATION: Rust's `Debug` also escapes the non-ASCII characters that are
not printable or extend a grapheme, as `\u{..}`; the model writes them as
they are.

The values of a struct are taken from the entries after its visitor's
checks have passed (`structEntries`, then `required`), so each value is
read twice in the model where the derived code reads it once; the result
and the first error are the same.
-/
import Zks.Format.Json

namespace Zks.Serde

open Json

/-! ## serde's messages -/

/-- Rust's `Debug` for one character of a string. -/
def debugChar (c : Char) : List Char :=
  if c = '\x00' then ['\\', '0']
  else if c = '\t' then ['\\', 't']
  else if c = '\r' then ['\\', 'r']
  else if c = '\n' then ['\\', 'n']
  else if c = '\\' then ['\\', '\\']
  else if c = '"' then ['\\', '"']
  else if c.toNat < 0x20 ∨ c.toNat = 0x7f then "\\u\x7b".toList ++ Nat.toDigits 16 c.toNat ++ ['\x7d']
  else [c]

/-- Rust's `Debug` for a string: quoted, each character as `debugChar`
writes it. -/
def debugString (s : String) : String := String.mk ('"' :: s.toList.flatMap debugChar ++ ['"'])

/-- serde's `Unexpected` for a content value, as its `Display` writes it. -/
def unexpected : Json → String
  | .null => "unit value"
  | .bool b => "boolean `" ++ toString b ++ "`"
  | .number n => "integer `" ++ toString n ++ "`"
  | .float t => "floating point `" ++ t ++ "`"
  | .string s => "string " ++ debugString s
  | .array _ => "sequence"
  | .object _ => "map"

/-- `Error::invalid_type`. -/
def invalidType (j : Json) (expected : String) : String :=
  "invalid type: " ++ unexpected j ++ ", expected " ++ expected

/-- `Error::invalid_value`. -/
def invalidValue (j : Json) (expected : String) : String :=
  "invalid value: " ++ unexpected j ++ ", expected " ++ expected

/-- `Error::invalid_length`. -/
def invalidLength (n : Nat) (expected : String) : String :=
  "invalid length " ++ toString n ++ ", expected " ++ expected

/-- `Error::missing_field`. -/
def missingField (key : String) : String := "missing field `" ++ key ++ "`"

/-- `Error::duplicate_field`. -/
def duplicateField (key : String) : String := "duplicate field `" ++ key ++ "`"

/-- serde's `OneOf`: the names a variant must be one of. -/
def oneOf : List String → String
  | [a] => "`" ++ a ++ "`"
  | [a, b] => "`" ++ a ++ "` or `" ++ b ++ "`"
  | names => "one of " ++ ", ".intercalate (names.map fun n => "`" ++ n ++ "`")

/-- `Error::unknown_variant`. -/
def unknownVariant (variant : String) (expected : List String) : String :=
  if expected = [] then "unknown variant `" ++ variant ++ "`, there are no variants"
  else "unknown variant `" ++ variant ++ "`, expected " ++ oneOf expected

/-! ## Primitive fields -/

/-- A `String` field. -/
def string : Json → Except String String
  | .string s => .ok s
  | j => .error (invalidType j "a string")

/-- A `bool` field. -/
def bool : Json → Except String Bool
  | .bool b => .ok b
  | j => .error (invalidType j "a boolean")

/-- An unsigned field of `bits` bits; `name` is the Rust type (`u8`, `u32`,
`u64`). serde's primitive visitor takes a non-negative literal
(`visit_u64`) below `2^bits` and refuses a negative one (`visit_i64`). -/
def unsigned (bits : Nat) (name : String) : Json → Except String Nat
  | .number (.ofNat k) => if k < 2 ^ bits then .ok k else .error (invalidValue (.number k) name)
  | .number n => .error (invalidValue (.number n) name)
  | j => .error (invalidType j name)

/-- A `u8` field. -/
def u8 (j : Json) : Except String UInt8 := (unsigned 8 "u8" j).map UInt8.ofNat

/-- A `u32` field. -/
def u32 (j : Json) : Except String UInt32 := (unsigned 32 "u32" j).map UInt32.ofNat

/-- A `u64` field; also `usize` on the 64-bit targets of the native crates. -/
def u64 (j : Json) : Except String UInt64 := (unsigned 64 "u64" j).map UInt64.ofNat

/-- A `Vec<T>` field: an array, each element read by `elem`. -/
def vec {α : Type} (elem : Json → Except String α) : Json → Except String (List α)
  | .array xs => xs.mapM elem
  | j => .error (invalidType j "a sequence")

/-- The derived `Serialize` of a `Vec<u8>`: an array of numbers. -/
def bytesJson (b : List UInt8) : Json := .array (b.map fun x => .number x.toNat)

/-- An `Option<T>` value: `null` is `None`. -/
def option {α : Type} (elem : Json → Except String α) : Json → Except String (Option α)
  | .null => .ok none
  | j => (elem j).map some

/-! ## Structs -/

/-- One field of a derived struct visitor: its key, whether it is an
`Option` (absent, it reads as `None`), and what reading its value
reports. -/
structure Field where
  key : String
  optional : Bool
  read : Json → Except String Unit

/-- A field read by `elem`. -/
def field {α : Type} (key : String) (elem : Json → Except String α) : Field :=
  ⟨key, false, fun j => (elem j).map fun _ => ()⟩

/-- An `Option<T>` field read by `elem`. -/
def optionField {α : Type} (key : String) (elem : Json → Except String α) : Field :=
  ⟨key, true, fun j => (option elem j).map fun _ => ()⟩

/-- The loop of a derived `visit_map` over buffered entries, in their
order: a field's second entry is `duplicate field`, a field's value is read
as its entry comes, and other keys are skipped (`IgnoredAny`); then the
first field in declaration order that had no entry and is not an `Option`
is `missing field`. `seen` holds the fields read so far. -/
def visitMap (fields : List Field) : List String → List (String × Json) → Except String Unit
  | seen, [] =>
    match fields.find? fun f => !f.optional && !seen.contains f.key with
    | some f => .error (missingField f.key)
    | none => .ok ()
  | seen, (k, v) :: kvs =>
    match fields.find? fun f => f.key == k with
    | none => visitMap fields seen kvs
    | some f =>
      if seen.contains k then .error (duplicateField k)
      else do f.read v; visitMap fields (k :: seen) kvs

/-- "`n` elements in sequence" (serde's `ExpectedInSeq`). -/
def elementsInSeq (n : Nat) : String :=
  if n = 1 then "1 element in sequence" else toString n ++ " elements in sequence"

/-- A derived `visit_seq` over buffered elements, then
`SeqDeserializer::end`: the fields in declaration order from the elements
in order. Too few elements is `invalid length` against `expecting` with
its `n` fields, too many against the count read. `i` counts the fields
read. -/
def visitSeq (expecting : String) (n : Nat) : Nat → List Field → List Json → Except String Unit
  | _, [], [] => .ok ()
  | i, [], xs => .error (invalidLength (i + xs.length) (elementsInSeq i))
  | i, _ :: _, [] =>
    .error (invalidLength i (expecting ++ " with " ++ toString n ++ if n = 1 then " element" else " elements"))
  | i, f :: fs, x :: xs => do f.read x; visitSeq expecting n (i + 1) fs xs

/-- The entries of a struct from its buffered content, as its derived
visitor reads them (`deserialize_struct`, or `deserialize_any` for an
internally tagged variant): an object through `visitMap`, an array through
`visitSeq` and then as its fields' entries in order; `expecting` names the
struct. -/
def structEntries (expecting : String) (fields : List Field) : Json → Except String (List (String × Json))
  | .object kvs => do visitMap fields [] kvs; pure kvs
  | .array xs => do visitSeq expecting fields.length 0 fields xs; pure ((fields.map (·.key)).zip xs)
  | j => .error (invalidType j expecting)

/-- The value of the entry under `key`. -/
def fieldValue (kvs : List (String × Json)) (key : String) : Option Json :=
  (kvs.find? fun kv => kv.1 == key).map Prod.snd

/-- A required field of checked entries, read by `elem`. -/
def required {α : Type} (kvs : List (String × Json)) (key : String) (elem : Json → Except String α) :
    Except String α :=
  match fieldValue kvs key with
  | some v => elem v
  | none => .error (missingField key)

/-- An `Option<T>` field of checked entries: absent reads as `None`. -/
def optional {α : Type} (kvs : List (String × Json)) (key : String) (elem : Json → Except String α) :
    Except String (Option α) :=
  match fieldValue kvs key with
  | some v => option elem v
  | none => .ok none

/-! ## Internally tagged enums -/

/-- serde's tag key for `#[serde(tag = "type")]`. -/
def tagKey : String := "type"

/-- The derived variant identifier, read by serde_json's `deserialize_str`:
a string naming one of `variants`. Any other value is the wrong type
(`peek_invalid_type`), raised after the value, or at the bracket of an
array or object, which is not read. -/
def parseVariant (variants : List String) (cs : List Char) : Except Error (String × List Char) :=
  match skipWs cs with
  | '"' :: rest => do
    let (s, r) ← parseStringBody rest
    if String.mk s ∈ variants then pure (String.mk s, r)
    else throw ⟨.message (unknownVariant (String.mk s) variants), some (utf8Len r)⟩
  | '[' :: rest => throw ⟨.message (invalidType (.array []) "variant identifier"), some (utf8Len ('[' :: rest))⟩
  | '{' :: rest => throw ⟨.message (invalidType (.object []) "variant identifier"), some (utf8Len ('{' :: rest))⟩
  | cs' => do
    let (v, r) ← parseValue 1 cs'
    throw ⟨.message (invalidType v "variant identifier"), some (utf8Len r)⟩

/-- Where `end_map` leaves the reader: past whitespace, and past a closing
brace. -/
def endMap (cs : List Char) : List Char :=
  match skipWs cs with
  | '}' :: rest => rest
  | rest => rest

/-- `TaggedContentVisitor::visit_map` over serde_json's `MapAccess`, after
the `{`: the `"type"` entry read by `parseVariant`, the others by `value`
and kept in order, until the closing brace. `tag` is the variant read so
far. A second `"type"`, or none at the closing brace, is serde's error
without a position, which `deserialize_any` fixes where `end_map` leaves
the reader. -/
def tagMembers (variants : List String) (value : List Char → Except Error (Json × List Char)) :
    Nat → Bool → Option String → List Char → Except Error ((String × List (String × Json)) × List Char)
  | 0, _, _, _ => .error (errorAt .eofWhileParsingObject [])
  | fuel + 1, first, tag, cs => do
    match ← nextKey first cs, tag with
    | (none, rest), some t => pure ((t, []), rest)
    | (none, rest), none => throw ⟨.message (missingField tagKey), some (utf8Len rest)⟩
    | (some k, r), _ =>
      if String.mk k = tagKey then
        match tag with
        | some _ => throw ⟨.message (duplicateField tagKey), some (utf8Len (endMap r))⟩
        | none => do
          let r ← objectColon r
          let (t, r) ← parseVariant variants r
          tagMembers variants value fuel false (some t) r
      else do
        let r ← objectColon r
        let (v, r) ← value r
        let ((t, kvs), r) ← tagMembers variants value fuel false tag r
        pure ((t, (String.mk k, v) :: kvs), r)

/-- serde_json's `deserialize_any` with serde's `TaggedContentVisitor`, at
the start of the text: the tag, and the content the variant is read from,
the other entries of an object or the other elements of an array. Opening
the object or array spends one unit of the recursion budget; an array
without elements has no tag, fixed after `end_seq`. -/
def parseTagged (enumName : String) (variants : List String) (cs : List Char) :
    Except Error ((String × Json) × List Char) :=
  match skipWs cs with
  | '{' :: rest => do
    let ((t, kvs), r) ← tagMembers variants (parseValue (recursionLimit - 1)) rest.length true none rest
    pure ((t, .object kvs), r)
  | '[' :: rest => do
    match ← nextElement true rest with
    | (false, r) => throw ⟨.message (missingField tagKey), some (utf8Len r)⟩
    | (true, start) =>
      let (t, r) ← parseVariant variants start
      let (xs, r) ← parseElems (parseValue (recursionLimit - 1)) r.length false r
      pure ((t, .array xs), r)
  | cs' => do
    let (v, r) ← parseValue 1 cs'
    throw ⟨.message (invalidType v ("internally tagged enum " ++ enumName)), some (utf8Len r)⟩

/-- `serde_json::from_str::<T>` for an internally tagged enum `T`: the tag
stage, then `fields` reads the variant from its content (serde's messages,
without a position), then `Deserializer::end`. -/
def fromStr {α : Type} (enumName : String) (variants : List String) (fields : String → Json → Except String α)
    (text : String) : Except Error α := do
  let ((tag, content), rest) ← parseTagged enumName variants text.toList
  let m ← (fields tag content).mapError fun msg => (⟨.message msg, none⟩ : Error)
  match skipWs rest with
  | [] => pure m
  | c :: r => throw (peekErrorAt .trailingCharacters (c :: r))

end Zks.Serde
