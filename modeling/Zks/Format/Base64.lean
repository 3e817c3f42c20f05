/-
Zks.Format.Base64 — `base64::engine::general_purpose::STANDARD` (base64
0.22), the engine `build_circuit` decodes hop keys with.

The engine uses the standard alphabet (`A`–`Z`, `a`–`z`, `0`–`9`, `+`, `/`),
writes `=` padding, and decodes with `DecodePaddingMode::RequireCanonical`
and without trailing bits. `Engine::decode` reads the UTF-8 bytes of its
input in the three stages of `decode_helper`:

* `complete_quads_len` reports a last byte that is neither a symbol nor
  `=` when the length is one more than a multiple of four, and otherwise
  sets the last one to four bytes apart, since they may hold padding;
* the complete quads before them decode four bytes at a time, and the
  first byte that is not a symbol (`=` included) fails as `InvalidByte`
  (`decode_chunk_8` and `decode_chunk_4` read their bytes in order);
* `decode_suffix` reads what was set apart: `=` among the first two bytes,
  a symbol after `=`, fewer than two symbols, padding that does not
  complete the quad, and bits set past the last byte each fail with their
  own error.

Errors carry the byte offset into the input and the offending byte, and
read as `DecodeError`'s `Display` writes them. The output buffer is sized
by the decoder's own estimate, so `OutputSliceTooSmall` never arises and
is not modelled.
-/
import Zks.Format.Json

namespace Zks.Base64

/-- `PAD_BYTE`, `=`. -/
def padByte : UInt8 := 61

/-- The decode table of the standard alphabet: the six-bit value of a
byte, or `none` for `INVALID_VALUE`. -/
def decodeTable (b : UInt8) : Option Nat :=
  if 65 ≤ b ∧ b ≤ 90 then some (b.toNat - 65)
  else if 97 ≤ b ∧ b ≤ 122 then some (b.toNat - 71)
  else if 48 ≤ b ∧ b ≤ 57 then some (b.toNat + 4)
  else if b = 43 then some 62
  else if b = 47 then some 63
  else none

/-- `DecodeError`. -/
inductive DecodeError where
  | invalidByte (index : Nat) (byte : UInt8)
  | invalidLength (length : Nat)
  | invalidLastSymbol (index : Nat) (byte : UInt8)
  | invalidPadding
  deriving DecidableEq, Repr

/-- `DecodeError`'s `Display`. -/
def DecodeError.toString : DecodeError → String
  | .invalidByte index byte =>
    "Invalid symbol " ++ ToString.toString byte ++ ", offset " ++ ToString.toString index ++ "."
  | .invalidLength length => "Invalid input length: " ++ ToString.toString length
  | .invalidLastSymbol index byte =>
    "Invalid last symbol " ++ ToString.toString byte ++ ", offset " ++ ToString.toString index ++ "."
  | .invalidPadding => "Invalid padding"

/-- The value of the byte at `index`, or its `InvalidByte` error. -/
def morsel (index : Nat) (b : UInt8) : Except DecodeError Nat :=
  match decodeTable b with
  | some v => .ok v
  | none => .error (.invalidByte index b)

/-- `complete_quads_len`: the length of the complete quads before the last
one to four bytes, after the check of a trailing byte that is neither a
symbol nor padding (`input.len() % 4 == 1`, "a user convenience"). -/
def completeQuadsLen (input : List UInt8) : Except DecodeError Nat :=
  let rem := input.length % 4
  let last := input.getLastD 0
  if rem = 1 ∧ last ≠ padByte ∧ decodeTable last = none then .error (.invalidByte (input.length - 1) last)
  else .ok (input.length - rem - if rem = 0 then 4 else 0)

/-- `decode_chunk_8` and `decode_chunk_4` over the complete quads, from
byte `index`: three bytes from each four symbols. -/
def decodeQuads (index : Nat) : List UInt8 → Except DecodeError (List UInt8)
  | a :: b :: c :: d :: rest => do
    let va ← morsel index a
    let vb ← morsel (index + 1) b
    let vc ← morsel (index + 2) c
    let vd ← morsel (index + 3) d
    let bytes ← decodeQuads (index + 4) rest
    pure (UInt8.ofNat (4 * va + vb / 16) :: UInt8.ofNat (16 * (vb % 16) + vc / 4) ::
      UInt8.ofNat (64 * (vc % 4) + vd) :: bytes)
  | _ => pure []

/-- The state of `decode_suffix`'s loop: the values of the symbols read,
the padding bytes counted, the offset of the first, and the last symbol. -/
structure Leftover where
  morsels : List Nat
  paddingBytes : Nat
  firstPaddingOffset : Nat
  lastSymbol : UInt8
  deriving DecidableEq, Repr

/-- The loop of `decode_suffix` over the bytes from `inputIndex`; `i` is
the next byte's offset from `inputIndex`. -/
def leftoverLoop (inputIndex : Nat) : Nat → Leftover → List UInt8 → Except DecodeError Leftover
  | _, s, [] => .ok s
  | i, s, b :: bs =>
    if b = padByte then
      if i < 2 then .error (.invalidByte (inputIndex + i) b)
      else leftoverLoop inputIndex (i + 1)
        { s with paddingBytes := s.paddingBytes + 1,
                 firstPaddingOffset := if s.paddingBytes = 0 then i else s.firstPaddingOffset } bs
    else if 0 < s.paddingBytes then .error (.invalidByte (inputIndex + s.firstPaddingOffset) padByte)
    else do
      let m ← morsel (inputIndex + i) b
      leftoverLoop inputIndex (i + 1) { s with morsels := s.morsels ++ [m], lastSymbol := b } bs

/-- `leftover_num`: the leftover symbols packed from the top of a `u32`,
six bits each. -/
def leftoverNum (morsels : List Nat) : Nat :=
  morsels.getD 0 0 * 2 ^ 26 + morsels.getD 1 0 * 2 ^ 20 + morsels.getD 2 0 * 2 ^ 14 + morsels.getD 3 0 * 2 ^ 8

/-- `decode_suffix` with `RequireCanonical` padding and no trailing bits:
the bytes of the last one to four symbols of `input`, from `inputIndex`. -/
def decodeSuffix (input : List UInt8) (inputIndex : Nat) : Except DecodeError (List UInt8) := do
  let s ← leftoverLoop inputIndex 0 ⟨[], 0, 0, 0⟩ (input.drop inputIndex)
  let n := s.morsels.length
  if input ≠ [] ∧ n < 2 then throw (.invalidLength (inputIndex + n))
  if (s.paddingBytes + n) % 4 ≠ 0 then throw .invalidPadding
  let bytes := n * 6 / 8
  let num := leftoverNum s.morsels
  if num % 2 ^ (32 - 8 * bytes) ≠ 0 then throw (.invalidLastSymbol (inputIndex + n - 1) s.lastSymbol)
  pure ((List.range bytes).map fun k => UInt8.ofNat (num / 2 ^ (24 - 8 * k)))

/-- `decode_helper`: the complete quads, then the suffix. -/
def decodeHelper (input : List UInt8) : Except DecodeError (List UInt8) := do
  let n ← completeQuadsLen input
  let front ← decodeQuads 0 (input.take n)
  let back ← decodeSuffix input n
  pure (front ++ back)

/-- `STANDARD.decode(s)`, which reads the UTF-8 bytes of `s`. -/
def decode (s : List Char) : Except DecodeError (List UInt8) :=
  decodeHelper (s.flatMap String.utf8EncodeChar)

example : decode "QUJD".toList = .ok [65, 66, 67] := by decide
example : decode "QR==".toList = .error (.invalidLastSymbol 1 82) := by decide
example : decode "QUJD\n".toList = .error (.invalidByte 4 10) := by decide

end Zks.Base64
