/-
Zks.Format.Json — the JSON text of the two wire protocols, as serde_json
writes and reads it.

Every text frame of the signaling protocol (`zks_wire/src/signaling.rs`) and
of the relay onion protocol (`zks_wasm/src/onion_transport.rs`) is one JSON
document: `serde_json::to_string(&message)` on the way out, and
`serde_json::from_str::<T>(&text)` on the way in. Neither half is code of the
repository, so this module models the library at the level the two protocols
use it.

* `Json` — the value tree. On the reading side it is serde's `Content`
  buffer, which every `#[serde(tag = "type")]` enum deserializes through; on
  the writing side it is the sequence of serializer calls a derived
  `Serialize` makes.
* `Json.write` — serde_json's compact formatter: no whitespace, `"` and `\`
  escaped, the C0 controls written as their short escape or as `\u00xx` in
  lower-case hex, every other character written as it is, integers in
  decimal.
* `Json.parseValue` — serde_json's `deserialize_any` into `Content`:
  whitespace, the three literals, number literals (`u64`, `i64`, otherwise
  `f64`), strings with every escape and surrogate pairs, arrays and objects
  as `SeqAccess` and `MapAccess` read them, under the recursion limit of 128.

Errors are serde_json's `Error`: an `ErrorCode` and the position it was
raised at, kept as the number of input bytes after it. `Error.display` is
serde_json's `Display`, `"{code} at line {line} column {column}"`, the line
counted from 1 and the column in bytes, as `position_of_index` computes
them; the reader raises each error where serde_json does, at its own index
(`error`) or one byte past it (`peek_error`).

Characters, not bytes: a Rust `str` and a Lean `String` are both sequences
of Unicode scalar values, so the reader reads `List Char` and counts bytes
only for positions. DEVIATION: a number literal with a fraction or an
exponent, or an integer out of the `u64`/`i64` range, is kept as its text
(`Json.float`): serde_json parses it to an `f64`, which no decoder of the
protocols accepts, shows it in messages in Rust's shortest form, and
refuses a literal beyond the `f64` range as `number out of range`.
-/
import Mathlib

namespace Zks

/-- Results are compared in tests and in the transports' effect traces. -/
instance instDecidableEqExcept {ε α : Type} [DecidableEq ε] [DecidableEq α] : DecidableEq (Except ε α)
  | .ok a, .ok b => decidable_of_iff (a = b) ⟨congrArg _, Except.ok.inj⟩
  | .error a, .error b => decidable_of_iff (a = b) ⟨congrArg _, Except.error.inj⟩
  | .ok _, .error _ => isFalse Except.noConfusion
  | .error _, .ok _ => isFalse Except.noConfusion

/-- A JSON value, as serde buffers it. -/
inductive Json where
  | null
  | bool (b : Bool)
  /-- An integer literal in serde_json's integer range: a `u64` when it is
  non-negative, an `i64` when it is negative. -/
  | number (n : Int)
  /-- Every other number literal: a fraction, an exponent, or an integer out
  of range. serde_json reads it as an `f64`; it is kept as its text, since no
  decoder of the protocols accepts one. -/
  | float (text : String)
  | string (s : String)
  | array (xs : List Json)
  | object (kvs : List (String × Json))
  deriving Repr

namespace Json

/-! ## Writing -/

/-- serde_json's `HEX_DIGITS`: lower-case hexadecimal. -/
def hexDigit (n : Nat) : Char :=
  if n < 10 then Char.ofNat (48 + n) else Char.ofNat (87 + n)

/-- serde_json's `ESCAPE` table for one character: `"` and `\` take a
backslash, the C0 controls their short escape or `\u00xx`, and every other
character, DEL and non-ASCII included, is written as it is. -/
def escapeChar (c : Char) : List Char :=
  if c = '"' then ['\\', '"']
  else if c = '\\' then ['\\', '\\']
  else if c = '\x08' then ['\\', 'b']
  else if c = '\t' then ['\\', 't']
  else if c = '\n' then ['\\', 'n']
  else if c = '\x0c' then ['\\', 'f']
  else if c = '\r' then ['\\', 'r']
  else if c.toNat < 0x20 then
    ['\\', 'u', '0', '0', hexDigit (c.toNat / 16), hexDigit (c.toNat % 16)]
  else [c]

/-- `format_escaped_str_contents`. -/
def escapeChars : List Char → List Char
  | [] => []
  | c :: cs => escapeChar c ++ escapeChars cs

/-- A string literal: the escaped characters between quotes. -/
def writeString (s : String) : List Char :=
  '"' :: escapeChars s.toList ++ ['"']

/-- The digit character of `d < 10`. -/
def digitChar (d : Nat) : Char := Char.ofNat (48 + d)

/-- The decimal digits of `n` in front of `acc`, most significant first, as
itoa writes them; `fuel` bounds the number of digits. -/
def decimalAux : Nat → Nat → List Char → List Char
  | 0, _, acc => acc
  | fuel + 1, n, acc =>
    if n < 10 then digitChar n :: acc
    else decimalAux fuel (n / 10) (digitChar (n % 10) :: acc)

/-- itoa's decimal text of `n`. -/
def decimal (n : Nat) : List Char := decimalAux (n + 1) n []

/-- An integer: its decimal text, with a minus sign when negative. -/
def writeInt : Int → List Char
  | .ofNat n => decimal n
  | .negSucc n => '-' :: decimal (n + 1)

mutual
/-- serde_json's compact formatter (`to_string`). An array or object is
written as its opening bracket, its first entry, and then `writeElemsTail`
or `writeMembersTail`, which write `,` before each further entry and the
closing bracket at the end. -/
def write : Json → List Char
  | .null => ['n', 'u', 'l', 'l']
  | .bool true => ['t', 'r', 'u', 'e']
  | .bool false => ['f', 'a', 'l', 's', 'e']
  | .number n => writeInt n
  | .float t => t.toList
  | .string s => writeString s
  | .array [] => ['[', ']']
  | .array (x :: xs) => '[' :: write x ++ writeElemsTail xs
  | .object [] => ['{', '}']
  | .object ((k, v) :: kvs) => '{' :: writeString k ++ ':' :: write v ++ writeMembersTail kvs

/-- The elements of an array after the first, and its closing bracket. -/
def writeElemsTail : List Json → List Char
  | [] => [']']
  | x :: xs => ',' :: write x ++ writeElemsTail xs

/-- The members of an object after the first, and its closing brace. -/
def writeMembersTail : List (String × Json) → List Char
  | [] => ['}']
  | (k, v) :: kvs => ',' :: writeString k ++ ':' :: write v ++ writeMembersTail kvs
end

/-- `serde_json::to_string`. -/
def toText (j : Json) : String := String.mk j.write

/-! ## Errors -/

/-- serde_json's `ErrorCode`: the codes its reader raises, and a serde
message. -/
inductive ErrorCode where
  | message (msg : String)
  | eofWhileParsingList
  | eofWhileParsingObject
  | eofWhileParsingString
  | eofWhileParsingValue
  | expectedColon
  | expectedListCommaOrEnd
  | expectedObjectCommaOrEnd
  | expectedSomeIdent
  | expectedSomeValue
  | invalidEscape
  | invalidNumber
  | controlCharacterWhileParsingString
  | keyMustBeAString
  | loneLeadingSurrogateInHexEscape
  | trailingComma
  | trailingCharacters
  | unexpectedEndOfHexEscape
  | recursionLimitExceeded
  deriving DecidableEq, Repr

/-- `ErrorCode`'s `Display`. -/
def ErrorCode.toString : ErrorCode → String
  | .message msg => msg
  | .eofWhileParsingList => "EOF while parsing a list"
  | .eofWhileParsingObject => "EOF while parsing an object"
  | .eofWhileParsingString => "EOF while parsing a string"
  | .eofWhileParsingValue => "EOF while parsing a value"
  | .expectedColon => "expected `:`"
  | .expectedListCommaOrEnd => "expected `,` or `]`"
  | .expectedObjectCommaOrEnd => "expected `,` or `\x7d`"
  | .expectedSomeIdent => "expected ident"
  | .expectedSomeValue => "expected value"
  | .invalidEscape => "invalid escape"
  | .invalidNumber => "invalid number"
  | .controlCharacterWhileParsingString => "control character (\\u0000-\\u001F) found while parsing a string"
  | .keyMustBeAString => "key must be a string"
  | .loneLeadingSurrogateInHexEscape => "lone leading surrogate in hex escape"
  | .trailingComma => "trailing comma"
  | .trailingCharacters => "trailing characters"
  | .unexpectedEndOfHexEscape => "unexpected end of hex escape"
  | .recursionLimitExceeded => "recursion limit exceeded"

/-- serde_json's `Error`: its code, and where it was raised as the number
of input bytes after that point; a serde message is made without a
position (`none`) until the reader gives it one (`fix_position`). -/
structure Error where
  code : ErrorCode
  remaining : Option Nat
  deriving DecidableEq, Repr

/-- The number of UTF-8 bytes of a text. -/
def utf8Len (cs : List Char) : Nat := (cs.map Char.utf8Size).sum

/-- `error(code)` with the reader at `rest`. -/
def errorAt (code : ErrorCode) (rest : List Char) : Error := ⟨code, some (utf8Len rest)⟩

/-- `peek_error(code)` with the reader at `rest`: one byte further, or the
end. It is also where `error(code)` points once `next_char` has read the
first byte of `rest`. -/
def peekErrorAt (code : ErrorCode) (rest : List Char) : Error := ⟨code, some (utf8Len rest - 1)⟩

/-- `position_of_index`: the line, from 1, and the column, in bytes from
0, of the byte at `i`. -/
def positionOfIndex (bytes : List UInt8) (i : Nat) : Nat × Nat :=
  let before := bytes.take i
  (1 + before.count 10, (before.reverse.takeWhile (· != 10)).length)

/-- `Error`'s `Display` for the input `text`. -/
def Error.display (text : String) (e : Error) : String :=
  match e.remaining with
  | none => e.code.toString
  | some r =>
    let bytes := text.toList.flatMap String.utf8EncodeChar
    let (line, column) := positionOfIndex bytes (bytes.length - r)
    e.code.toString ++ " at line " ++ toString line ++ " column " ++ toString column

/-! ## Reading -/

/-- The JSON whitespace characters serde_json skips. -/
def isWs (c : Char) : Bool := c = ' ' || c = '\n' || c = '\t' || c = '\r'

/-- `parse_whitespace`. -/
def skipWs : List Char → List Char
  | [] => []
  | c :: cs => if isWs c then skipWs cs else c :: cs

/-- `parse_ident`: the rest of `null`, `true` or `false`, read with
`next_char`. -/
def parseIdent : List Char → List Char → Except Error (List Char)
  | [], cs => .ok cs
  | _ :: _, [] => .error (errorAt .eofWhileParsingValue [])
  | e :: es, c :: cs => if c = e then parseIdent es cs else .error (peekErrorAt .expectedSomeIdent (c :: cs))

/-- The digits at the front of a text, and what follows them. -/
def spanDigits : List Char → List Char × List Char
  | [] => ([], [])
  | c :: cs => if c.isDigit then ((spanDigits cs).1.cons c, (spanDigits cs).2) else ([], c :: cs)

/-- The value of a run of decimal digits. -/
def digitsValue (ds : List Char) : Nat :=
  ds.foldl (fun acc c => 10 * acc + (c.toNat - 48)) 0

/-- An integer literal without fraction or exponent: a `u64` when positive
and below `2^64`; when negative, an `i64` when its magnitude is at most
`2^63` and non-zero (serde_json reads `-0` as the `f64` `-0.0`); otherwise
an `f64`. -/
def integerLiteral (positive : Bool) (v : Nat) (text : List Char) : Json :=
  if positive then (if v < 2 ^ 64 then .number v else .float (String.mk text))
  else if 0 < v ∧ v ≤ 2 ^ 63 then .number (-(v : Int)) else .float (String.mk text)

/-- `parse_exponent`, after the `e`: an optional sign and at least one
digit, read with `next_char`; `lit` is the literal so far. -/
def parseExponent (lit : List Char) (cs : List Char) : Except Error (Json × List Char) :=
  let (sign, rest) := match cs with
    | '+' :: r => (['+'], r)
    | '-' :: r => (['-'], r)
    | r => ([], r)
  match rest with
  | [] => .error (errorAt .eofWhileParsingValue [])
  | c :: r =>
    if c.isDigit then .ok (.float (String.mk (lit ++ 'e' :: sign ++ c :: (spanDigits r).1)), (spanDigits r).2)
    else .error (peekErrorAt .invalidNumber (c :: r))

/-- `parse_number`, after the integer part: a fraction (`parse_decimal`,
which needs a digit after the point) or an exponent make the literal an
`f64`, otherwise it is an integer. -/
def parseNumberTail (positive : Bool) (intPart : List Char) (cs : List Char) :
    Except Error (Json × List Char) :=
  let lit := (if positive then [] else ['-']) ++ intPart
  match cs with
  | '.' :: rest =>
    match spanDigits rest with
    | ([], []) => .error (peekErrorAt .eofWhileParsingValue [])
    | ([], r) => .error (peekErrorAt .invalidNumber r)
    | (fs, 'e' :: r) => parseExponent (lit ++ '.' :: fs) r
    | (fs, 'E' :: r) => parseExponent (lit ++ '.' :: fs) r
    | (fs, r) => .ok (.float (String.mk (lit ++ '.' :: fs)), r)
  | 'e' :: rest => parseExponent lit rest
  | 'E' :: rest => parseExponent lit rest
  | _ => .ok (integerLiteral positive (digitsValue intPart) lit, cs)

/-- `parse_integer`, its first digit read with `next_char`: one leading
`0`, or a non-zero digit and more digits. -/
def parseNumber (positive : Bool) (cs : List Char) : Except Error (Json × List Char) :=
  match cs with
  | '0' :: rest =>
    match rest with
    | d :: _ => if d.isDigit then .error (peekErrorAt .invalidNumber rest) else parseNumberTail positive ['0'] rest
    | [] => parseNumberTail positive ['0'] rest
  | c :: rest =>
    if c.isDigit then
      parseNumberTail positive (c :: (spanDigits rest).1) (spanDigits rest).2
    else .error (peekErrorAt .invalidNumber (c :: rest))
  | [] => .error (errorAt .eofWhileParsingValue [])

/-- The value of a hexadecimal digit. -/
def hexValue (c : Char) : Option Nat :=
  if '0' ≤ c ∧ c ≤ '9' then some (c.toNat - 48)
  else if 'a' ≤ c ∧ c ≤ 'f' then some (c.toNat - 87)
  else if 'A' ≤ c ∧ c ≤ 'F' then some (c.toNat - 55)
  else none

/-- The code unit of four hex digits. -/
def hex4 (a b c d : Char) : Option Nat := do
  pure (4096 * (← hexValue a) + 256 * (← hexValue b) + 16 * (← hexValue c) + (← hexValue d))

/-- `decode_hex_escape`: the next four bytes, taken at once, as hex digits. -/
def hexEscape (cs : List Char) : Except Error (Nat × List Char) :=
  match cs with
  | a :: b :: c :: d :: r =>
    match hex4 a b c d with
    | some n => .ok (n, r)
    | none => .error ⟨.invalidEscape, some (utf8Len cs - 4)⟩
  | _ =>
    if 4 ≤ utf8Len cs then .error ⟨.invalidEscape, some (utf8Len cs - 4)⟩
    else .error (errorAt .eofWhileParsingString [])

/-- `parse_unicode_escape` for a `str`, after `\u`: a trailing surrogate
alone is refused, and a leading one must be followed by `\u` and a
trailing one. -/
def parseUnicodeEscape (cs : List Char) : Except Error (Char × List Char) :=
  match hexEscape cs with
  | .error e => .error e
  | .ok (n, r) =>
    if 0xDC00 ≤ n ∧ n < 0xE000 then .error (errorAt .loneLeadingSurrogateInHexEscape r)
    else if n < 0xD800 ∨ 0xE000 ≤ n then .ok (Char.ofNat n, r)
    else
      match r with
      | '\\' :: 'u' :: r' =>
        match hexEscape r' with
        | .error e => .error e
        | .ok (m, r'') =>
          if 0xDC00 ≤ m ∧ m < 0xE000 then .ok (Char.ofNat (0x10000 + (n - 0xD800) * 0x400 + (m - 0xDC00)), r'')
          else .error (errorAt .loneLeadingSurrogateInHexEscape r'')
      | ['\\'] => .error (errorAt .eofWhileParsingString [])
      | '\\' :: c :: r' => .error (peekErrorAt .unexpectedEndOfHexEscape (c :: r'))
      | [] => .error (errorAt .eofWhileParsingString [])
      | c :: r' => .error (peekErrorAt .unexpectedEndOfHexEscape (c :: r'))

/-- Put a decoded character in front of the rest of a string body. -/
def consChar (c : Char) (r : Except Error (List Char × List Char)) : Except Error (List Char × List Char) :=
  r.map fun p => (c :: p.1, p.2)

/-- The character a one-letter escape after `\\` stands for. -/
def shortEscape : Char → Option Char
  | '"' => some '"'
  | '\\' => some '\\'
  | '/' => some '/'
  | 'b' => some '\x08'
  | 'f' => some '\x0c'
  | 'n' => some '\n'
  | 'r' => some '\r'
  | 't' => some '\t'
  | _ => none

/-- `parse_escape`, after a backslash: the character the escape stands for,
and the text after it. -/
def parseEscape : List Char → Except Error (Char × List Char)
  | [] => .error (errorAt .eofWhileParsingString [])
  | e :: r =>
    match shortEscape e with
    | some x => .ok (x, r)
    | none => if e = 'u' then parseUnicodeEscape r else .error (peekErrorAt .invalidEscape (e :: r))

/-- `parse_str`'s loop, after the opening quote: the characters up to the
closing quote, with escapes decoded, and the text after it; an unescaped C0
control is refused. `fuel` bounds the rounds; each round consumes a
character, so the length of the text is enough. -/
def parseStringChars : Nat → List Char → Except Error (List Char × List Char)
  | 0, _ => .error (errorAt .eofWhileParsingString [])
  | _ + 1, [] => .error (errorAt .eofWhileParsingString [])
  | fuel + 1, c :: rest =>
    if c = '"' then .ok ([], rest)
    else if c = '\\' then
      match parseEscape rest with
      | .ok (x, r) => consChar x (parseStringChars fuel r)
      | .error e => .error e
    else if c.toNat < 0x20 then .error (errorAt .controlCharacterWhileParsingString rest)
    else consChar c (parseStringChars fuel rest)

/-- `parse_str`, after the opening quote. -/
def parseStringBody (cs : List Char) : Except Error (List Char × List Char) :=
  parseStringChars cs.length cs

/-- `SeqAccess::next_element_seed` up to the element: `(true, start)` when an
element starts at `start`, or `(false, rest)` at the closing bracket, with
`rest` after it (`end_seq` eats it). `first` is whether no element was read
yet. -/
def nextElement (first : Bool) (cs : List Char) : Except Error (Bool × List Char) :=
  match skipWs cs, first with
  | ']' :: rest, _ => .ok (false, rest)
  | [], _ => .error (peekErrorAt .eofWhileParsingList [])
  | c :: rest, true => .ok (true, c :: rest)
  | ',' :: rest, false =>
    match skipWs rest with
    | ']' :: r => .error (peekErrorAt .trailingComma (']' :: r))
    | [] => .error (peekErrorAt .eofWhileParsingValue [])
    | d :: r => .ok (true, d :: r)
  | c :: rest, false => .error (peekErrorAt .expectedListCommaOrEnd (c :: rest))

/-- `MapAccess::next_key_seed` with `MapKey`, after the comma: the key's
characters and the text after its closing quote. -/
def mapKey : List Char → Except Error (List Char × List Char)
  | '"' :: r => parseStringBody r
  | ',' :: r => .error (peekErrorAt .trailingComma (',' :: r))
  | '}' :: r => .error (peekErrorAt .trailingComma ('}' :: r))
  | [] => .error (peekErrorAt .eofWhileParsingValue [])
  | c :: r => .error (peekErrorAt .keyMustBeAString (c :: r))

/-- `MapAccess::next_key_seed`: `(some key, rest)` for the next key, or
`(none, rest)` at the closing brace, with `rest` after it (`end_map` eats
it). `first` is whether no entry was read yet. -/
def nextKey (first : Bool) (cs : List Char) : Except Error (Option (List Char) × List Char) :=
  match skipWs cs, first with
  | '}' :: rest, _ => .ok (none, rest)
  | [], _ => .error (peekErrorAt .eofWhileParsingObject [])
  | c :: rest, true => (mapKey (c :: rest)).map fun p => (some p.1, p.2)
  | ',' :: rest, false => (mapKey (skipWs rest)).map fun p => (some p.1, p.2)
  | c :: rest, false => .error (peekErrorAt .expectedObjectCommaOrEnd (c :: rest))

/-- `parse_object_colon`. -/
def objectColon (cs : List Char) : Except Error (List Char) :=
  match skipWs cs with
  | ':' :: rest => .ok rest
  | [] => .error (peekErrorAt .eofWhileParsingObject [])
  | c :: rest => .error (peekErrorAt .expectedColon (c :: rest))

/-- `ContentVisitor::visit_seq`: the elements until the closing bracket.
`fuel` bounds the rounds; each round consumes a character, so the length
of the text is enough. -/
def parseElems (elem : List Char → Except Error (Json × List Char)) :
    Nat → Bool → List Char → Except Error (List Json × List Char)
  | 0, _, _ => .error (errorAt .eofWhileParsingList [])
  | fuel + 1, first, cs => do
    match ← nextElement first cs with
    | (false, rest) => pure ([], rest)
    | (true, start) =>
      let (x, r) ← elem start
      let (xs, r') ← parseElems elem fuel false r
      pure (x :: xs, r')

/-- `ContentVisitor::visit_map`: the entries until the closing brace, each
a key, `:` and a value. -/
def parseMembers (value : List Char → Except Error (Json × List Char)) :
    Nat → Bool → List Char → Except Error (List (String × Json) × List Char)
  | 0, _, _ => .error (errorAt .eofWhileParsingObject [])
  | fuel + 1, first, cs => do
    match ← nextKey first cs with
    | (none, rest) => pure ([], rest)
    | (some k, r) =>
      let r ← objectColon r
      let (v, r) ← value r
      let (kvs, r) ← parseMembers value fuel false r
      pure ((String.mk k, v) :: kvs, r)

/-- `deserialize_any` with serde's `ContentVisitor`, `depth` the remaining
recursion budget (`remaining_depth`): opening an array or object spends
one, and reaching zero is the recursion-limit error, raised at the
bracket. -/
def parseValue : Nat → List Char → Except Error (Json × List Char)
  | 0, cs => .error (peekErrorAt .recursionLimitExceeded cs)
  | depth + 1, cs =>
    match skipWs cs with
    | [] => .error (peekErrorAt .eofWhileParsingValue [])
    | 'n' :: rest => (parseIdent ['u', 'l', 'l'] rest).map fun r => (.null, r)
    | 't' :: rest => (parseIdent ['r', 'u', 'e'] rest).map fun r => (.bool true, r)
    | 'f' :: rest => (parseIdent ['a', 'l', 's', 'e'] rest).map fun r => (.bool false, r)
    | '-' :: rest => parseNumber false rest
    | '"' :: rest => (parseStringBody rest).map fun p => (.string (String.mk p.1), p.2)
    | '[' :: rest =>
      if depth = 0 then .error (peekErrorAt .recursionLimitExceeded ('[' :: rest))
      else (parseElems (parseValue depth) rest.length true rest).map fun p => (.array p.1, p.2)
    | '{' :: rest =>
      if depth = 0 then .error (peekErrorAt .recursionLimitExceeded ('{' :: rest))
      else (parseMembers (parseValue depth) rest.length true rest).map fun p => (.object p.1, p.2)
    | c :: rest => if c.isDigit then parseNumber true (c :: rest) else .error (peekErrorAt .expectedSomeValue (c :: rest))

/-- serde_json's initial `remaining_depth`. -/
def recursionLimit : Nat := 128

example : parseValue recursionLimit "\x7b\"a\": [1, -2, 3.5e1, \"\\u00e9\"], \"b\": null\x7d".toList =
    .ok (.object [("a", .array [.number 1, .number (-2), .float "3.5e1", .string "é"]), ("b", .null)], []) := rfl

end Json

end Zks
