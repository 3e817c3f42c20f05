/-
Zks.Format.Base64Theorems — `STANDARD.decode` accepts exactly the
canonical encodings, and gives back the bytes they encode.

`encode` is standard padded base64 as the spec's hop descriptor writes a
key: each three bytes as four symbols, and a last group of one or two
bytes as two or three symbols padded with `=`. The source only decodes;
`encode` is the spec's side of the round trip.

* `decodeHelper_encode` — the bytes of every encoding decode to the bytes
  encoded.
* `eq_encode_of_decodeHelper` — bytes that decode are the bytes of the
  encoding of what they decode to: the suffix checks (padding, length,
  trailing bits) reject every other input.
* `decode_eq_ok_iff` — the same for a text: the decoder reads its UTF-8
  bytes, and a text whose bytes are those of an encoding is that encoding.

## How the proofs go

The alphabet is checked byte by byte: `decodeTable_symbolByte` on the 64
values and `symbolByte_of_decodeTable` on the 256 bytes. Three bytes are
four six-bit values and back, which `omega` checks from the bounds of the
bytes and of the values. An encoding splits where `complete_quads_len`
splits it (`encode_append`): the complete quads are the encoding of a
multiple of three bytes, read by `decodeQuads` by induction, and the last
quad is the encoding of one to three bytes, read by `decodeSuffix` case
by case. Backwards, `leftoverLoop_symbols` says that a suffix the loop
accepts is symbols followed by padding, and the counts the suffix checks
leave only the three shapes of a last quad.

The bridge to texts (`utf8_eq_map_asciiByte`) uses that an ASCII
character is one byte, its code point, and that every other character
has a continuation byte `≥ 0x80`, which no encoding holds.
-/
import Mathlib
import Zks.Format.Base64
import Zks.Format.JsonTheorems

namespace Zks.Base64

open Json

/-- The symbol of the standard alphabet for a value below 64. -/
def symbolChar (v : Nat) : Char :=
  if v < 26 then Char.ofNat (v + 65)
  else if v < 52 then Char.ofNat (v + 71)
  else if v < 62 then Char.ofNat (v - 4)
  else if v = 62 then '+'
  else '/'

/-- Standard padded base64. -/
def encode : List UInt8 → List Char
  | [] => []
  | [x] => [symbolChar (x.toNat / 4), symbolChar (x.toNat % 4 * 16), '=', '=']
  | [x, y] =>
    [symbolChar (x.toNat / 4), symbolChar (x.toNat % 4 * 16 + y.toNat / 16),
      symbolChar (y.toNat % 16 * 4), '=']
  | x :: y :: z :: rest =>
    symbolChar (x.toNat / 4) :: symbolChar (x.toNat % 4 * 16 + y.toNat / 16) ::
      symbolChar (y.toNat % 16 * 4 + z.toNat / 64) :: symbolChar (z.toNat % 64) :: encode rest

example : encode [65, 66, 67] = "QUJD".toList := by decide
example : encode [65] = "QQ==".toList := by decide

/-- The one UTF-8 byte of an ASCII character. -/
def asciiByte (c : Char) : UInt8 := c.val.toUInt8

/-- The byte of the symbol for a value below 64. -/
def symbolByte (v : Nat) : UInt8 := asciiByte (symbolChar v)

/-! ## 1. The alphabet, byte by byte -/

theorem decodeTable_symbolByte : ∀ v, v < 64 → decodeTable (symbolByte v) = some v := by decide

theorem symbolByte_ne_pad : ∀ v, v < 64 → symbolByte v ≠ padByte := by decide

theorem toNat_symbolChar_lt : ∀ v, v < 64 → (symbolChar v).toNat < 128 := by decide

theorem ofNat_eq {x : UInt8} {n : Nat} (h : n % 256 = x.toNat) : UInt8.ofNat n = x :=
  UInt8.toNat.inj h

section Bytes

set_option maxRecDepth 4096

theorem decodeTable_all :
    ∀ n, n < 256 → (decodeTable (UInt8.ofNat n)).all (fun v => v < 64 && symbolByte v == UInt8.ofNat n) := by
  decide

end Bytes

theorem symbolByte_of_decodeTable {b : UInt8} {v : Nat} (h : decodeTable b = some v) :
    v < 64 ∧ symbolByte v = b := by
  have hb := decodeTable_all b.toNat b.toNat_lt_size
  rw [ofNat_eq (Nat.mod_eq_of_lt b.toNat_lt_size), h] at hb
  simpa using hb

theorem morsel_eq_ok {i v : Nat} {b : UInt8} : morsel i b = .ok v ↔ decodeTable b = some v := by
  unfold morsel
  split <;> simp_all

@[simp] theorem morsel_symbolByte {v : Nat} (h : v < 64) (i : Nat) : morsel i (symbolByte v) = .ok v :=
  morsel_eq_ok.2 (decodeTable_symbolByte v h)

/-- A decoding step that succeeded. -/
theorem bind_eq_ok {ε α β : Type} {x : Except ε α} {f : α → Except ε β} {b : β} :
    x >>= f = .ok b ↔ ∃ a, x = .ok a ∧ f a = .ok b := by
  cases x <;> simp [bind, Except.bind]

theorem toNat_ofNat_byte {n : Nat} (h : n < 256) : (UInt8.ofNat n).toNat = n :=
  UInt8.toNat_ofNat_of_lt h

theorem toNat_ofNat_eq_mod (n : Nat) : (UInt8.ofNat n).toNat = n % 256 := rfl

theorem asciiByte_pad : asciiByte '=' = padByte := rfl

/-! ## 2. Encodings -/

/-- Every character of an encoding is a symbol of the alphabet or the
padding. -/
theorem mem_encode {c : Char} {b : List UInt8} (h : c ∈ encode b) : c = '=' ∨ ∃ v < 64, symbolChar v = c := by
  induction b using encode.induct with
  | case1 => simp [encode] at h
  | case2 x =>
    have hx : x.toNat < 256 := x.toNat_lt_size
    simp only [encode, List.mem_cons, List.not_mem_nil, or_false] at h
    rcases h with rfl | rfl | rfl | rfl <;> first | exact .inl rfl | exact .inr ⟨_, by omega, rfl⟩
  | case3 x y =>
    have hx : x.toNat < 256 := x.toNat_lt_size
    have hy : y.toNat < 256 := y.toNat_lt_size
    simp only [encode, List.mem_cons, List.not_mem_nil, or_false] at h
    rcases h with rfl | rfl | rfl | rfl <;> first | exact .inl rfl | exact .inr ⟨_, by omega, rfl⟩
  | case4 x y z rest ih =>
    have hx : x.toNat < 256 := x.toNat_lt_size
    have hy : y.toNat < 256 := y.toNat_lt_size
    have hz : z.toNat < 256 := z.toNat_lt_size
    simp only [encode, List.mem_cons] at h
    rcases h with rfl | rfl | rfl | rfl | h
    iterate 4 exact .inr ⟨_, by omega, rfl⟩
    exact ih h

theorem toNat_lt_of_mem_encode {c : Char} {b : List UInt8} (h : c ∈ encode b) : c.toNat < 128 := by
  rcases mem_encode h with rfl | ⟨v, hv, rfl⟩
  · decide
  · exact toNat_symbolChar_lt v hv

theorem length_encode (b : List UInt8) : (encode b).length = (b.length + 2) / 3 * 4 := by
  induction b using encode.induct with
  | case4 x y z rest ih => simp only [encode, List.length_cons, ih]; omega
  | _ => simp [encode]

/-- An encoding splits after any multiple of three bytes. -/
theorem encode_append {f : List UInt8} (r : List UInt8) (h : f.length % 3 = 0) :
    encode (f ++ r) = encode f ++ encode r := by
  induction f using encode.induct with
  | case1 => rfl
  | case2 x => simp at h
  | case3 x y => simp at h
  | case4 x y z rest ih =>
    simp only [List.length_cons] at h
    rw [List.cons_append, List.cons_append, List.cons_append, encode.eq_4, encode.eq_4, ih (by omega)]
    rfl

/-! ## 3. The complete quads -/

theorem decodeQuads_encode (index : Nat) {b : List UInt8} (h : b.length % 3 = 0) :
    decodeQuads index ((encode b).map asciiByte) = .ok b := by
  induction b using encode.induct generalizing index with
  | case1 => rfl
  | case2 x => simp at h
  | case3 x y => simp at h
  | case4 x y z rest ih =>
    have hx : x.toNat < 256 := x.toNat_lt_size
    have hy : y.toNat < 256 := y.toNat_lt_size
    have hz : z.toNat < 256 := z.toNat_lt_size
    have e₁ : UInt8.ofNat (4 * (x.toNat / 4) + (x.toNat % 4 * 16 + y.toNat / 16) / 16) = x :=
      ofNat_eq (by omega)
    have e₂ : UInt8.ofNat (16 * ((x.toNat % 4 * 16 + y.toNat / 16) % 16) +
        (y.toNat % 16 * 4 + z.toNat / 64) / 4) = y := ofNat_eq (by omega)
    have e₃ : UInt8.ofNat (64 * ((y.toNat % 16 * 4 + z.toNat / 64) % 4) + z.toNat % 64) = z :=
      ofNat_eq (by omega)
    simp only [List.length_cons] at h
    simp only [encode, List.map_cons, decodeQuads, ← symbolByte.eq_1]
    rw [morsel_symbolByte (by omega), ok_bind, morsel_symbolByte (by omega), ok_bind,
      morsel_symbolByte (by omega), ok_bind, morsel_symbolByte (by omega), ok_bind,
      ih _ (by omega), ok_bind, pure_ok, e₁, e₂, e₃]

theorem eq_encode_of_decodeQuads {index : Nat} {l b : List UInt8} (h : decodeQuads index l = .ok b)
    (hl : l.length % 4 = 0) : l = (encode b).map asciiByte ∧ b.length % 3 = 0 := by
  induction index, l using decodeQuads.induct generalizing b with
  | case1 index a c d e rest ih =>
    rw [decodeQuads] at h
    obtain ⟨va, ha, h₁⟩ := bind_eq_ok.1 h
    obtain ⟨vb, hb, h₂⟩ := bind_eq_ok.1 h₁
    obtain ⟨vc, hc, h₃⟩ := bind_eq_ok.1 h₂
    obtain ⟨vd, hd, h₄⟩ := bind_eq_ok.1 h₃
    obtain ⟨bytes, hrest, h₅⟩ := bind_eq_ok.1 h₄
    obtain ⟨hva, rfl⟩ := symbolByte_of_decodeTable (morsel_eq_ok.1 ha)
    obtain ⟨hvb, rfl⟩ := symbolByte_of_decodeTable (morsel_eq_ok.1 hb)
    obtain ⟨hvc, rfl⟩ := symbolByte_of_decodeTable (morsel_eq_ok.1 hc)
    obtain ⟨hvd, rfl⟩ := symbolByte_of_decodeTable (morsel_eq_ok.1 hd)
    simp only [List.length_cons] at hl
    obtain ⟨hrest, hlen⟩ := ih hrest (by omega)
    cases h₅
    have hx : (UInt8.ofNat (4 * va + vb / 16)).toNat = 4 * va + vb / 16 := toNat_ofNat_byte (by omega)
    have hy : (UInt8.ofNat (16 * (vb % 16) + vc / 4)).toNat = 16 * (vb % 16) + vc / 4 :=
      toNat_ofNat_byte (by omega)
    have hz : (UInt8.ofNat (64 * (vc % 4) + vd)).toNat = 64 * (vc % 4) + vd := toNat_ofNat_byte (by omega)
    refine ⟨?_, by simp only [List.length_cons]; omega⟩
    rw [encode, hx, hy, hz, hrest, show (4 * va + vb / 16) / 4 = va by omega,
      show (4 * va + vb / 16) % 4 * 16 + (16 * (vb % 16) + vc / 4) / 16 = vb by omega,
      show (16 * (vb % 16) + vc / 4) % 16 * 4 + (64 * (vc % 4) + vd) / 64 = vc by omega,
      show (64 * (vc % 4) + vd) % 64 = vd by omega]
    rfl
  | case2 l index hnot =>
    rw [decodeQuads.eq_2 _ _ hnot] at h
    cases h
    match l, hl, hnot with
    | [], _, _ => exact ⟨rfl, rfl⟩
    | [_], hl, _ | [_, _], hl, _ | [_, _, _], hl, _ => simp at hl
    | _ :: _ :: _ :: _ :: _, _, hnot => exact absurd rfl (hnot _ _ _ _ _)

/-! ## 4. The last quad -/

@[simp] theorem leftoverLoop_nil (ii i : Nat) (s : Leftover) : leftoverLoop ii i s [] = .ok s := rfl

theorem leftoverLoop_symbolByte {ii i v : Nat} (s : Leftover) (bs : List UInt8) (hv : v < 64)
    (hp : s.paddingBytes = 0) :
    leftoverLoop ii i s (symbolByte v :: bs) =
      leftoverLoop ii (i + 1) { s with morsels := s.morsels ++ [v], lastSymbol := symbolByte v } bs := by
  rw [leftoverLoop, if_neg (symbolByte_ne_pad v hv), if_neg (by omega), morsel_symbolByte hv, ok_bind]

theorem leftoverLoop_pad {ii i : Nat} (s : Leftover) (bs : List UInt8) (hi : 2 ≤ i) :
    leftoverLoop ii i s (padByte :: bs) =
      leftoverLoop ii (i + 1)
        { s with
          paddingBytes := s.paddingBytes + 1
          firstPaddingOffset := if s.paddingBytes = 0 then i else s.firstPaddingOffset } bs := by
  rw [leftoverLoop, if_pos rfl, if_neg (by omega)]

/-- After the first `=`, the loop accepts only padding. -/
theorem leftoverLoop_padding {ii i : Nat} {s s' : Leftover} {l : List UInt8} (hp : 0 < s.paddingBytes)
    (h : leftoverLoop ii i s l = .ok s') :
    s'.morsels = s.morsels ∧ s'.paddingBytes = s.paddingBytes + l.length ∧
      l = List.replicate l.length padByte := by
  induction l generalizing i s with
  | nil => cases Except.ok.inj h; simp
  | cons b bs ih =>
    by_cases hb : b = padByte
    · subst hb
      by_cases hi : i < 2
      · rw [leftoverLoop, if_pos rfl, if_pos hi] at h
        cases h
      · rw [leftoverLoop_pad s bs (by omega)] at h
        obtain ⟨hm, hpb, hbs⟩ := ih (Nat.succ_pos _) h
        refine ⟨hm, by simp only [hpb, List.length_cons]; omega, ?_⟩
        rw [List.length_cons, List.replicate_succ, ← hbs]
    · rw [leftoverLoop, if_neg hb, if_pos hp] at h
      cases h

/-- What the loop accepts from a state without padding: symbols, then
padding. -/
theorem leftoverLoop_symbols {ii i : Nat} {s s' : Leftover} {l : List UInt8} (hp : s.paddingBytes = 0)
    (h : leftoverLoop ii i s l = .ok s') :
    ∃ ms, s'.morsels = s.morsels ++ ms ∧ (∀ m ∈ ms, m < 64) ∧
      l = ms.map symbolByte ++ List.replicate s'.paddingBytes padByte := by
  induction l generalizing i s with
  | nil => cases Except.ok.inj h; exact ⟨[], by simp, by simp, by simp [hp]⟩
  | cons b bs ih =>
    by_cases hb : b = padByte
    · subst hb
      by_cases hi : i < 2
      · rw [leftoverLoop, if_pos rfl, if_pos hi] at h
        cases h
      · rw [leftoverLoop_pad s bs (by omega)] at h
        obtain ⟨hm, hpb, hbs⟩ := leftoverLoop_padding (Nat.succ_pos _) h
        refine ⟨[], by simp [hm], by simp, ?_⟩
        rw [hpb, hp, List.map_nil, List.nil_append, Nat.zero_add, Nat.add_comm, List.replicate_succ, ← hbs]
    · rw [leftoverLoop, if_neg hb, if_neg (by omega)] at h
      obtain ⟨m, hmb, h⟩ := bind_eq_ok.1 h
      obtain ⟨ms, hms, hlt, hbs⟩ := ih (by exact hp) h
      obtain ⟨hm, rfl⟩ := symbolByte_of_decodeTable (morsel_eq_ok.1 hmb)
      refine ⟨m :: ms, by simp [hms], ?_, by simp [hbs]⟩
      simpa [hm] using hlt

/-- `decode_suffix` succeeds when the loop does and the counts and the
trailing bits pass. -/
theorem decodeSuffix_eq_ok {input r : List UInt8} {i : Nat} :
    decodeSuffix input i = .ok r ↔
      ∃ s, leftoverLoop i 0 ⟨[], 0, 0, 0⟩ (input.drop i) = .ok s ∧
        ¬(input ≠ [] ∧ s.morsels.length < 2) ∧ (s.paddingBytes + s.morsels.length) % 4 = 0 ∧
        leftoverNum s.morsels % 2 ^ (32 - 8 * (s.morsels.length * 6 / 8)) = 0 ∧
        r = (List.range (s.morsels.length * 6 / 8)).map
          fun k => UInt8.ofNat (leftoverNum s.morsels / 2 ^ (24 - 8 * k)) := by
  unfold decodeSuffix
  cases leftoverLoop i 0 ⟨[], 0, 0, 0⟩ (input.drop i) with
  | error e => simp [bind, Except.bind]
  | ok s =>
    simp only [bind, Except.bind, pure, Except.pure, throw, throwThe, MonadExceptOf.throw]
    split_ifs <;> simp_all [eq_comm]

theorem decodeSuffix_encode (pre : List UInt8) {r : List UInt8} (h₁ : r ≠ []) (h₃ : r.length ≤ 3) :
    decodeSuffix (pre ++ (encode r).map asciiByte) pre.length = .ok r := by
  rw [decodeSuffix_eq_ok, List.drop_left]
  match r, h₁, h₃ with
  | [x], _, _ =>
    have hx : x.toNat < 256 := x.toNat_lt_size
    refine ⟨⟨[x.toNat / 4, x.toNat % 4 * 16], 2, 2, symbolByte (x.toNat % 4 * 16)⟩, ?_, by simp, by simp, ?_, ?_⟩
    · simp only [encode, List.map_cons, List.map_nil, ← symbolByte.eq_1, asciiByte_pad]
      rw [leftoverLoop_symbolByte _ _ (by omega) rfl, leftoverLoop_symbolByte _ _ (by omega) rfl,
        leftoverLoop_pad _ _ le_rfl, leftoverLoop_pad _ _ (by omega)]
      rfl
    · norm_num [leftoverNum]
      omega
    · norm_num [leftoverNum, List.range_succ]
      exact (ofNat_eq (by omega)).symm
  | [x, y], _, _ =>
    have hx : x.toNat < 256 := x.toNat_lt_size
    have hy : y.toNat < 256 := y.toNat_lt_size
    refine ⟨⟨[x.toNat / 4, x.toNat % 4 * 16 + y.toNat / 16, y.toNat % 16 * 4], 1, 3,
      symbolByte (y.toNat % 16 * 4)⟩, ?_, by simp, by simp, ?_, ?_⟩
    · simp only [encode, List.map_cons, List.map_nil, ← symbolByte.eq_1, asciiByte_pad]
      rw [leftoverLoop_symbolByte _ _ (by omega) rfl, leftoverLoop_symbolByte _ _ (by omega) rfl,
        leftoverLoop_symbolByte _ _ (by omega) rfl, leftoverLoop_pad _ _ (by omega)]
      rfl
    · norm_num [leftoverNum]
      omega
    · norm_num [leftoverNum, List.range_succ]
      exact ⟨(ofNat_eq (by omega)).symm, (ofNat_eq (by omega)).symm⟩
  | [x, y, z], _, _ =>
    have hx : x.toNat < 256 := x.toNat_lt_size
    have hy : y.toNat < 256 := y.toNat_lt_size
    have hz : z.toNat < 256 := z.toNat_lt_size
    refine ⟨⟨[x.toNat / 4, x.toNat % 4 * 16 + y.toNat / 16, y.toNat % 16 * 4 + z.toNat / 64, z.toNat % 64],
      0, 0, symbolByte (z.toNat % 64)⟩, ?_, by simp, by simp, ?_, ?_⟩
    · simp only [encode, List.map_cons, List.map_nil, ← symbolByte.eq_1]
      rw [leftoverLoop_symbolByte _ _ (by omega) rfl, leftoverLoop_symbolByte _ _ (by omega) rfl,
        leftoverLoop_symbolByte _ _ (by omega) rfl, leftoverLoop_symbolByte _ _ (by omega) rfl]
      rfl
    · norm_num [leftoverNum]
      omega
    · norm_num [leftoverNum, List.range_succ]
      exact ⟨(ofNat_eq (by omega)).symm, (ofNat_eq (by omega)).symm, (ofNat_eq (by omega)).symm⟩
  | _ :: _ :: _ :: _ :: _, _, h₃ => simp at h₃

/-- What a suffix of at most four bytes decodes to, it is the encoding
of: the loop's symbols and padding (`leftoverLoop_symbols`), counted by
the length and padding checks, leave two, three or four symbols, and the
trailing-bits check makes them the encoding of one, two or three bytes. -/
theorem eq_encode_of_decodeSuffix {input r : List UInt8} {i : Nat} (h : decodeSuffix input i = .ok r)
    (hl : (input.drop i).length ≤ 4) : input.drop i = (encode r).map asciiByte := by
  obtain ⟨s, hloop, hn, hp, htrail, rfl⟩ := decodeSuffix_eq_ok.1 h
  obtain ⟨ms, hms, hlt, hdrop⟩ := leftoverLoop_symbols rfl hloop
  rw [List.nil_append] at hms
  rw [hms] at hn hp htrail ⊢
  rw [hdrop] at hl ⊢
  generalize s.paddingBytes = p at hl hp hdrop ⊢
  simp only [List.length_append, List.length_map, List.length_replicate] at hl
  rcases ms with _ | ⟨v0, _ | ⟨v1, _ | ⟨v2, _ | ⟨v3, _ | ⟨v4, ms⟩⟩⟩⟩⟩
  · have : input = [] := by simpa using hn
    subst this
    obtain rfl : p = 0 := by simpa [eq_comm] using congrArg List.length hdrop
    rfl
  · have : input = [] := by simpa using hn
    subst this
    simp at hdrop
  · obtain rfl : p = 2 := by simp at hp hl; omega
    have h0 := hlt v0 (by simp)
    have h1 := hlt v1 (by simp)
    norm_num [leftoverNum] at htrail
    norm_num [leftoverNum, List.range_succ, encode, symbolByte, toNat_ofNat_eq_mod]
    exact ⟨by congr 2; omega, by congr 2; omega, rfl⟩
  · obtain rfl : p = 1 := by simp at hp hl; omega
    have h0 := hlt v0 (by simp)
    have h1 := hlt v1 (by simp)
    have h2 := hlt v2 (by simp)
    norm_num [leftoverNum] at htrail
    norm_num [leftoverNum, List.range_succ, encode, symbolByte, toNat_ofNat_eq_mod]
    exact ⟨by congr 2; omega, by congr 2; omega, by congr 2; omega, rfl⟩
  · obtain rfl : p = 0 := by simp at hp hl; omega
    have h0 := hlt v0 (by simp)
    have h1 := hlt v1 (by simp)
    have h2 := hlt v2 (by simp)
    have h3 := hlt v3 (by simp)
    norm_num [leftoverNum, List.range_succ, encode, symbolByte, toNat_ofNat_eq_mod]
    exact ⟨by congr 2; omega, by congr 2; omega, by congr 2; omega, by congr 2; omega⟩
  · simp at hl
    omega

/-! ## 5. The whole input -/

theorem completeQuadsLen_eq_ok {input : List UInt8} {n : Nat} (h : completeQuadsLen input = .ok n) :
    n = input.length - input.length % 4 - if input.length % 4 = 0 then 4 else 0 := by
  simp only [completeQuadsLen] at h
  split at h
  · cases h
  · exact (Except.ok.inj h).symm

theorem completeQuadsLen_of_mod_four (input : List UInt8) (h : input.length % 4 = 0) :
    completeQuadsLen input = .ok (input.length - 4) := by
  simp [completeQuadsLen, h]

/-- An encoding decodes: its complete quads by `decodeQuads_encode`, its
last quad by `decodeSuffix_encode`. -/
theorem decodeHelper_encode_append {f r : List UInt8} (hf : f.length % 3 = 0) (h₁ : r ≠ [])
    (h₃ : r.length ≤ 3) :
    decodeHelper ((encode f).map asciiByte ++ (encode r).map asciiByte) = .ok (f ++ r) := by
  have hr : ((encode r).map asciiByte).length = 4 := by
    rw [List.length_map, length_encode]
    have := List.length_pos.2 h₁
    omega
  have hn := completeQuadsLen_of_mod_four ((encode f).map asciiByte ++ (encode r).map asciiByte)
    (by rw [List.length_append, hr, List.length_map, length_encode]; omega)
  rw [List.length_append, hr, Nat.add_sub_cancel] at hn
  rw [decodeHelper, hn, ok_bind, List.take_left, decodeQuads_encode 0 hf, ok_bind,
    decodeSuffix_encode _ h₁ h₃, ok_bind, pure_ok]

theorem decodeHelper_encode (b : List UInt8) : decodeHelper ((encode b).map asciiByte) = .ok b := by
  rcases Nat.eq_zero_or_pos b.length with h0 | hpos
  · rw [List.length_eq_zero.1 h0]
    rfl
  have hk : (b.take ((b.length - 1) / 3 * 3)).length % 3 = 0 := by
    rw [List.length_take]
    omega
  rw [← List.take_append_drop ((b.length - 1) / 3 * 3) b, encode_append _ hk, List.map_append]
  exact decodeHelper_encode_append hk (List.length_pos.1 (by rw [List.length_drop]; omega))
    (by rw [List.length_drop]; omega)

theorem eq_encode_of_decodeHelper {input b : List UInt8} (h : decodeHelper input = .ok b) :
    input = (encode b).map asciiByte := by
  rw [decodeHelper] at h
  obtain ⟨n, hn, h⟩ := bind_eq_ok.1 h
  obtain ⟨front, hfront, h⟩ := bind_eq_ok.1 h
  obtain ⟨back, hback, h⟩ := bind_eq_ok.1 h
  cases h
  have hn := completeQuadsLen_eq_ok hn
  obtain ⟨hf, hf3⟩ := eq_encode_of_decodeQuads hfront (by rw [List.length_take]; split_ifs at hn <;> omega)
  have hb := eq_encode_of_decodeSuffix hback (by rw [List.length_drop]; split_ifs at hn <;> omega)
  rw [← List.take_append_drop n input, hf, hb, ← List.map_append, ← encode_append _ hf3]

/-! ## 6. Texts -/

theorem toNat_asciiByte (c : Char) : (asciiByte c).toNat = c.toNat % 256 := rfl

theorem utf8EncodeChar_of_lt {c : Char} (h : c.toNat < 128) : String.utf8EncodeChar c = [asciiByte c] := by
  simp [String.utf8EncodeChar, show c.val ≤ 0x7f from (show c.toNat ≤ 127 by omega), asciiByte]

/-- The last byte of every multi-byte UTF-8 encoding is a continuation
byte `0b10xxxxxx`. -/
theorem le_toNat_continuation (y : UInt8) : 128 ≤ (y &&& 0x3f ||| 0x80).toNat := by
  show 128 ≤ ((y &&& 0x3f).toBitVec ||| (0x80 : UInt8).toBitVec).toNat
  rw [BitVec.toNat_or]
  exact Nat.le_of_testBit fun i h => by simp [Nat.testBit_or, h]

theorem exists_high_byte {c : Char} (h : 128 ≤ c.toNat) : ∃ x ∈ String.utf8EncodeChar c, 128 ≤ x.toNat := by
  have hv : ¬c.val ≤ 0x7f := show ¬c.toNat ≤ 127 by omega
  simp only [String.utf8EncodeChar, hv, if_false]
  split_ifs <;> exact ⟨c.val.toUInt8 &&& 0x3f ||| 0x80, by simp, le_toNat_continuation _⟩

/-- A text whose UTF-8 bytes are those of an ASCII text is that text. -/
theorem utf8_eq_map_asciiByte {s t : List Char} (ht : ∀ c ∈ t, c.toNat < 128) :
    s.flatMap String.utf8EncodeChar = t.map asciiByte ↔ s = t := by
  refine ⟨fun h => ?_, ?_⟩
  · induction s generalizing t with
    | nil => exact (List.map_eq_nil_iff.1 h.symm).symm
    | cons c s ih =>
      rw [List.flatMap_cons] at h
      by_cases hc : c.toNat < 128
      · rw [utf8EncodeChar_of_lt hc] at h
        match t, ht, h with
        | d :: t, ht, h =>
          simp only [List.map_cons, List.singleton_append, List.cons.injEq] at h
          have hd := ht d (List.mem_cons_self d t)
          have hcd : c.toNat = d.toNat := by
            have := congrArg UInt8.toNat h.1
            rw [toNat_asciiByte, toNat_asciiByte] at this
            omega
          rw [← Char.ofNat_toNat c, hcd, Char.ofNat_toNat, ih (fun c hc => ht c (List.mem_cons_of_mem d hc)) h.2]
      · obtain ⟨x, hx, hhigh⟩ := exists_high_byte (show 128 ≤ c.toNat by omega)
        obtain ⟨d, hd, rfl⟩ := List.mem_map.1 (h ▸ List.mem_append_left _ hx)
        have := ht d hd
        rw [toNat_asciiByte] at hhigh
        omega
  · rintro rfl
    induction s with
    | nil => rfl
    | cons c s ih =>
      rw [List.flatMap_cons, utf8EncodeChar_of_lt (ht c (List.mem_cons_self c s)),
        ih (fun c hc => ht c (List.mem_cons_of_mem _ hc))]
      rfl

theorem decode_encode (b : List UInt8) : decode (encode b) = .ok b := by
  rw [decode, (utf8_eq_map_asciiByte fun _ => toNat_lt_of_mem_encode).2 rfl]
  exact decodeHelper_encode b

/-- **`STANDARD.decode` accepts exactly the canonical encodings**: a text
decodes to `b` exactly when it is the padded standard encoding of `b`. -/
theorem decode_eq_ok_iff (s : List Char) (b : List UInt8) : decode s = .ok b ↔ s = encode b :=
  ⟨fun h => (utf8_eq_map_asciiByte fun _ => toNat_lt_of_mem_encode).1 (eq_encode_of_decodeHelper h),
    fun h => h ▸ decode_encode b⟩

end Zks.Base64
