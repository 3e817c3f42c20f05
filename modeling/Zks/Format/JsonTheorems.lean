/-
Zks.Format.JsonTheorems — serde_json reads back what it writes.

`parseValue_write`: for every value whose numbers are integers in
serde_json's integer range and whose arrays and objects nest within the
recursion budget (`Readable`), the reader takes back the writer's text,
followed by anything that can follow a value. Strings are arbitrary: every
character the writer escapes, the reader unescapes.

## How the proofs go

* Digits: `decimalAux_spec` says once what itoa's loop writes (digits, their
  value, no leading zero), by induction on its fuel.
* Strings: `escapeChar_cases` says what the writer makes of one character,
  one case per arm of serde_json's `ESCAPE` table, with `parse_escape`
  taking each escape back; `parseStringChars_escapeChars` follows by
  induction on the characters.
* Separators: `nextElement_*`, `nextKey_*` and `objectColon_colon` say what
  `SeqAccess` and `MapAccess` make of the writer's brackets, commas and
  colons.
* Values: `parseValue_write`, by induction on `Readable`. What follows a
  value in written text is nothing, `,`, `]` or `}` (`Ends`), which is what
  the number reader needs to stop; the elements and members after the first
  are read by `parseElems_write` and `parseMembers_write`, for any reader of
  the entries that takes them back, and their fuel (the length of the rest
  of the text) outlasts the entries.
-/
import Mathlib
import Zks.Format.Json

namespace Zks.Json

/-- A step that succeeded hands its value on. -/
@[simp] theorem ok_bind {ε α β : Type} (a : α) (f : α → Except ε β) : (Except.ok a >>= f) = f a := rfl

@[simp] theorem pure_ok {ε α : Type} (a : α) : (pure a : Except ε α) = .ok a := rfl

@[simp] theorem except_map_ok {ε α β : Type} (f : α → β) (a : α) : Except.map f (.ok a : Except ε α) = .ok (f a) :=
  rfl

/-! ## Digits -/

theorem digitChar_facts : ∀ d, d < 10 →
    (digitChar d).isDigit = true ∧ (digitChar d).toNat - 48 = d ∧ (digitChar d = '0' → d = 0) := by
  decide

theorem digitsValue_append_singleton (ds : List Char) (c : Char) :
    digitsValue (ds ++ [c]) = 10 * digitsValue ds + (c.toNat - 48) := by
  simp [digitsValue, List.foldl_append]

/-- What itoa's loop writes in front of `acc`, when its fuel outlasts `n`:
decimal digits, with value `n`, led by `0` only for `0`. -/
theorem decimalAux_spec : ∀ (fuel n : Nat) (acc : List Char), n < fuel →
    ∃ c ds, decimalAux fuel n acc = c :: ds ++ acc ∧ (∀ x ∈ c :: ds, x.isDigit = true) ∧
      digitsValue (c :: ds) = n ∧ (c = '0' → n = 0)
  | 0, n, _, h => absurd h (Nat.not_lt_zero n)
  | fuel + 1, n, acc, h => by
    unfold decimalAux
    split
    · obtain ⟨h₁, h₂, h₃⟩ := digitChar_facts n ‹_›
      exact ⟨digitChar n, [], rfl, by simpa using h₁, by simp [digitsValue, h₂], h₃⟩
    · obtain ⟨c, ds, he, hd, hv, h0⟩ :=
        decimalAux_spec fuel (n / 10) (digitChar (n % 10) :: acc) (by omega)
      obtain ⟨h₁, h₂, -⟩ := digitChar_facts (n % 10) (Nat.mod_lt _ (by norm_num))
      refine ⟨c, ds ++ [digitChar (n % 10)], by rw [he]; simp, fun x hx => ?_, ?_, fun hc => ?_⟩
      · rw [← List.cons_append, List.mem_append, List.mem_singleton] at hx
        rcases hx with hx | rfl
        · exact hd x hx
        · exact h₁
      · rw [← List.cons_append, digitsValue_append_singleton, hv, h₂]
        omega
      · have := h0 hc
        omega

theorem decimal_spec (n : Nat) :
    ∃ c ds, decimal n = c :: ds ∧ (∀ x ∈ c :: ds, x.isDigit = true) ∧ digitsValue (c :: ds) = n ∧
      (c = '0' → n = 0) := by
  obtain ⟨c, ds, he, h⟩ := decimalAux_spec (n + 1) n [] (by omega)
  exact ⟨c, ds, by rw [decimal, he, List.append_nil], h⟩

/-! ## What follows a value -/

/-- What the writer puts after a value: nothing, or the `,`, `]` or `}` after
an element or member. -/
def Ends (r : List Char) : Prop :=
  r = [] ∨ ∃ t, r = ',' :: t ∨ r = ']' :: t ∨ r = '}' :: t

theorem spanDigits_append {ds r : List Char} (hd : ∀ c ∈ ds, c.isDigit = true) (hr : Ends r) :
    spanDigits (ds ++ r) = (ds, r) := by
  induction ds with
  | nil => rcases hr with rfl | ⟨t, rfl | rfl | rfl⟩ <;> rfl
  | cons c ds ih =>
    simp [spanDigits, hd c (List.mem_cons_self c ds), ih fun x hx => hd x (List.mem_cons_of_mem c hx)]

theorem parseNumberTail_ends (positive : Bool) (ds : List Char) {r : List Char} (hr : Ends r) :
    parseNumberTail positive ds r =
      .ok (integerLiteral positive (digitsValue ds) ((if positive then [] else ['-']) ++ ds), r) := by
  rcases hr with rfl | ⟨t, rfl | rfl | rfl⟩ <;> rfl

theorem parseNumber_decimal (positive : Bool) (n : Nat) {r : List Char} (hr : Ends r) :
    parseNumber positive (decimal n ++ r) =
      .ok (integerLiteral positive n ((if positive then [] else ['-']) ++ decimal n), r) := by
  obtain ⟨c, ds, he, hd, hv, h0⟩ := decimal_spec n
  by_cases hn : n = 0
  · subst hn
    rcases hr with rfl | ⟨t, rfl | rfl | rfl⟩ <;> rfl
  · have hc : c.isDigit = true := hd c (List.mem_cons_self c ds)
    have hc0 : c ≠ '0' := fun hc => hn (h0 hc)
    rw [he, List.cons_append]
    simp only [parseNumber, hc, hc0, if_true]
    rw [spanDigits_append (fun x hx => hd x (List.mem_cons_of_mem c hx)) hr, parseNumberTail_ends positive _ hr,
      hv]

theorem isWs_of_isDigit {c : Char} (h : c.isDigit = true) : isWs c = false := by
  simp only [Char.isDigit, Bool.and_eq_true, decide_eq_true_eq] at h
  simp only [isWs, Bool.or_eq_false_iff, decide_eq_false_iff_not]
  refine ⟨⟨⟨?_, ?_⟩, ?_⟩, ?_⟩ <;> rintro rfl <;> simp_all

theorem skipWs_cons {c : Char} (h : isWs c = false) (t : List Char) : skipWs (c :: t) = c :: t := by
  simp [skipWs, h]

theorem parseValue_digit {c : Char} (h : c.isDigit = true) (d : Nat) (t : List Char) :
    parseValue (d + 1) (c :: t) = parseNumber true (c :: t) := by
  rw [parseValue, skipWs_cons (isWs_of_isDigit h)]
  -- the arms for the other first characters contradict `h`
  split <;> rename_i heq <;> cases heq <;> first | exact absurd h (by decide) | exact if_pos h

/-- An integer in serde_json's range reads back. -/
theorem parseValue_writeInt {n : Int} (h : 0 ≤ n ∧ n < 2 ^ 64 ∨ -2 ^ 63 ≤ n ∧ n < 0) (d : Nat) {r : List Char}
    (hr : Ends r) : parseValue (d + 1) (writeInt n ++ r) = .ok (.number n, r) := by
  cases n with
  | ofNat m =>
    obtain ⟨c, ds, he, hd, -, -⟩ := decimal_spec m
    have hm : m < 18446744073709551616 := by simp only [Int.ofNat_eq_coe] at h; omega
    simp only [writeInt]
    rw [he, List.cons_append, parseValue_digit (hd c (List.mem_cons_self c ds)), ← List.cons_append, ← he,
      parseNumber_decimal true m hr]
    simp [integerLiteral, hm]
  | negSucc m =>
    have hm : m ≤ 9223372036854775807 := by rw [Int.negSucc_eq] at h; omega
    have hv : parseValue (d + 1) ('-' :: (decimal (m + 1) ++ r)) = parseNumber false (decimal (m + 1) ++ r) := rfl
    rw [writeInt, List.cons_append, hv, parseNumber_decimal false (m + 1) hr]
    simp [integerLiteral, hm, Int.negSucc_eq]

/-! ## Strings -/

/-- The punctuation and letters that start the writer's tokens are not
whitespace. -/
@[simp] theorem isWs_tokens : isWs ',' = false ∧ isWs ':' = false ∧ isWs '"' = false ∧ isWs '[' = false ∧
    isWs ']' = false ∧ isWs '{' = false ∧ isWs '}' = false ∧ isWs '-' = false := by
  decide

theorem hexValue_hexDigit : ∀ d, d < 16 → hexValue (hexDigit d) = some d := by
  decide

theorem hex4_escape {n : Nat} (h : n < 0x20) :
    hex4 '0' '0' (hexDigit (n / 16)) (hexDigit (n % 16)) = some n := by
  simp only [hex4, hexValue_hexDigit (n / 16) (by omega), hexValue_hexDigit (n % 16) (Nat.mod_lt _ (by norm_num))]
  show some (4096 * 0 + 256 * 0 + 16 * (n / 16) + n % 16) = some n
  congr 1
  omega

theorem parseUnicodeEscape_escape {n : Nat} (h : n < 0x20) (t : List Char) :
    parseUnicodeEscape ('0' :: '0' :: hexDigit (n / 16) :: hexDigit (n % 16) :: t) = .ok (Char.ofNat n, t) := by
  simp only [parseUnicodeEscape, hexEscape, hex4_escape h]
  rw [if_neg (by omega), if_pos (Or.inl (by omega))]

/-- What the writer makes of a character: the character itself, when it is
neither a quote, a backslash nor a C0 control, or else a backslash and an
escape that `parse_escape` takes back. -/
theorem escapeChar_cases (c : Char) :
    (escapeChar c = [c] ∧ c ≠ '"' ∧ c ≠ '\\' ∧ ¬ c.toNat < 0x20) ∨
      ∃ e, escapeChar c = '\\' :: e ∧ ∀ t, parseEscape (e ++ t) = .ok (c, t) := by
  by_cases h₁ : c = '"'
  · subst h₁; exact .inr ⟨_, rfl, fun t => rfl⟩
  by_cases h₂ : c = '\\'
  · subst h₂; exact .inr ⟨_, rfl, fun t => rfl⟩
  by_cases h₃ : c = '\x08'
  · subst h₃; exact .inr ⟨_, rfl, fun t => rfl⟩
  by_cases h₄ : c = '\t'
  · subst h₄; exact .inr ⟨_, rfl, fun t => rfl⟩
  by_cases h₅ : c = '\n'
  · subst h₅; exact .inr ⟨_, rfl, fun t => rfl⟩
  by_cases h₆ : c = '\x0c'
  · subst h₆; exact .inr ⟨_, rfl, fun t => rfl⟩
  by_cases h₇ : c = '\r'
  · subst h₇; exact .inr ⟨_, rfl, fun t => rfl⟩
  rw [escapeChar, if_neg h₁, if_neg h₂, if_neg h₃, if_neg h₄, if_neg h₅, if_neg h₆, if_neg h₇]
  by_cases h₈ : c.toNat < 0x20
  · -- a C0 control without a short escape: `\u00xx`
    refine .inr ⟨_, if_pos h₈, fun t => ?_⟩
    have hs : shortEscape 'u' = none := rfl
    simp only [List.cons_append, List.nil_append, parseEscape, hs, if_true, parseUnicodeEscape_escape h₈,
      Char.ofNat_toNat]
  · exact .inl ⟨if_neg h₈, h₁, h₂, h₈⟩

/-- `parse_str`'s loop reads back the escaped characters, up to the closing
quote. -/
theorem parseStringChars_escapeChars (cs r : List Char) {fuel : Nat} (hf : (escapeChars cs).length < fuel) :
    parseStringChars fuel (escapeChars cs ++ '"' :: r) = .ok (cs, r) := by
  induction cs generalizing fuel with
  | nil =>
    obtain ⟨fuel, rfl⟩ : ∃ f, fuel = f + 1 := ⟨fuel - 1, by omega⟩
    rfl
  | cons c cs ih =>
    rw [escapeChars, List.length_append] at hf
    obtain ⟨fuel, rfl⟩ : ∃ f, fuel = f + 1 := ⟨fuel - 1, by omega⟩
    rw [escapeChars, List.append_assoc]
    rcases escapeChar_cases c with ⟨he, h₁, h₂, h₃⟩ | ⟨e, he, hp⟩
    · rw [he] at hf
      rw [he, List.singleton_append, parseStringChars, if_neg h₁, if_neg h₂, if_neg h₃,
        ih (by simp only [List.length_singleton] at hf; omega)]
      rfl
    · rw [he, List.length_cons] at hf
      rw [he, List.cons_append, parseStringChars, if_neg (by decide), if_pos rfl, hp]
      dsimp only
      rw [ih (by omega)]
      rfl

theorem parseStringBody_escapeChars (cs r : List Char) :
    parseStringBody (escapeChars cs ++ '"' :: r) = .ok (cs, r) :=
  parseStringChars_escapeChars cs r (by simp)

theorem writeString_append (k : String) (t : List Char) :
    writeString k ++ t = '"' :: (escapeChars k.toList ++ '"' :: t) := by
  simp [writeString]

/-! ## Values -/

/-- The values serde_json reads back as it wrote them, within a recursion
budget: integers in its integer range and no other numbers, arrays and
objects nested below the budget (opening one spends one unit, and the
reader refuses to open one on its last unit). -/
inductive Readable : Nat → Json → Prop
  | null {d : Nat} : Readable (d + 1) .null
  | bool {d : Nat} (b : Bool) : Readable (d + 1) (.bool b)
  | number {d : Nat} {n : Int} : 0 ≤ n ∧ n < 2 ^ 64 ∨ -2 ^ 63 ≤ n ∧ n < 0 → Readable (d + 1) (.number n)
  | string {d : Nat} (s : String) : Readable (d + 1) (.string s)
  | array {d : Nat} {xs : List Json} : (∀ x ∈ xs, Readable (d + 1) x) → Readable (d + 2) (.array xs)
  | object {d : Nat} {kvs : List (String × Json)} :
    (∀ kv ∈ kvs, Readable (d + 1) kv.2) → Readable (d + 2) (.object kvs)

/-- The text of a readable value starts with a character that is neither
whitespace nor a closing bracket. -/
theorem write_head {d : Nat} {v : Json} (h : Readable d v) :
    ∃ c t, write v = c :: t ∧ isWs c = false ∧ c ≠ ']' ∧ c ≠ '}' := by
  cases h with
  | null => exact ⟨_, _, rfl, rfl, by decide, by decide⟩
  | bool b => cases b <;> exact ⟨_, _, rfl, rfl, by decide, by decide⟩
  | @number _ n _ =>
    cases n with
    | ofNat m =>
      obtain ⟨c, ds, he, hd, -⟩ := decimal_spec m
      have hc := hd c (List.mem_cons_self c ds)
      exact ⟨c, ds, he, isWs_of_isDigit hc, by rintro rfl; simp at hc, by rintro rfl; simp at hc⟩
    | negSucc m => exact ⟨_, _, rfl, rfl, by decide, by decide⟩
  | string s => exact ⟨_, _, rfl, rfl, by decide, by decide⟩
  | @array _ xs _ => cases xs <;> exact ⟨_, _, rfl, rfl, by decide, by decide⟩
  | @object _ kvs _ => cases kvs <;> exact ⟨_, _, rfl, rfl, by decide, by decide⟩

theorem length_writeElemsTail (xs : List Json) : xs.length < (writeElemsTail xs).length := by
  induction xs with
  | nil => simp [writeElemsTail]
  | cons x xs ih => simp only [writeElemsTail, List.length_cons, List.length_append]; omega

theorem length_writeMembersTail (kvs : List (String × Json)) : kvs.length < (writeMembersTail kvs).length := by
  induction kvs with
  | nil => simp [writeMembersTail]
  | cons kv kvs ih => simp only [writeMembersTail, List.length_cons, List.length_append]; omega

theorem ends_writeElemsTail (xs : List Json) (r : List Char) : Ends (writeElemsTail xs ++ r) := by
  cases xs
  · exact Or.inr ⟨r, Or.inr (Or.inl rfl)⟩
  · exact Or.inr ⟨_, Or.inl rfl⟩

theorem ends_writeMembersTail (kvs : List (String × Json)) (r : List Char) : Ends (writeMembersTail kvs ++ r) := by
  cases kvs
  · exact Or.inr ⟨r, Or.inr (Or.inr rfl)⟩
  · exact Or.inr ⟨_, Or.inl rfl⟩

/-! ## Arrays and objects -/

theorem nextElement_close (first : Bool) (r : List Char) : nextElement first (']' :: r) = .ok (false, r) := by
  cases first <;> rfl

theorem nextElement_first {c : Char} {u : List Char} (hc : isWs c = false) (hc' : c ≠ ']') :
    nextElement true (c :: u) = .ok (true, c :: u) := by
  simp only [nextElement, skipWs_cons hc]

theorem nextElement_comma {c : Char} {u : List Char} (hc : isWs c = false) (hc' : c ≠ ']') :
    nextElement false (',' :: c :: u) = .ok (true, c :: u) := by
  simp only [nextElement, skipWs_cons (isWs_tokens.1), skipWs_cons hc]

theorem nextKey_close (first : Bool) (r : List Char) : nextKey first ('}' :: r) = .ok (none, r) := by
  cases first <;> rfl

/-- A key after `{`: `MapKey` reads the string after the quote. -/
theorem nextKey_quote (u : List Char) :
    nextKey true ('"' :: u) = (parseStringBody u).map fun p => (some p.1, p.2) := rfl

/-- A key after `,`. -/
theorem nextKey_comma_quote (u : List Char) :
    nextKey false (',' :: '"' :: u) = (parseStringBody u).map fun p => (some p.1, p.2) := rfl

theorem nextKey_first (k : String) (t : List Char) : nextKey true (writeString k ++ t) = .ok (some k.toList, t) := by
  rw [writeString_append, nextKey_quote, parseStringBody_escapeChars]
  rfl

theorem nextKey_comma (k : String) (t : List Char) :
    nextKey false (',' :: (writeString k ++ t)) = .ok (some k.toList, t) := by
  rw [writeString_append, nextKey_comma_quote, parseStringBody_escapeChars]
  rfl

theorem objectColon_colon (t : List Char) : objectColon (':' :: t) = .ok t := rfl

section
variable (value : List Char → Except Error (Json × List Char))

theorem parseElems_next {fuel : Nat} {first : Bool} {cs start : List Char}
    (h : nextElement first cs = .ok (true, start)) :
    parseElems value (fuel + 1) first cs = (do
      let (x, r) ← value start
      let (xs, r') ← parseElems value fuel false r
      pure (x :: xs, r')) := by
  rw [parseElems, h]
  rfl

theorem parseMembers_next {fuel : Nat} {first : Bool} {cs : List Char} {k r : List Char}
    (h : nextKey first cs = .ok (some k, r)) :
    parseMembers value (fuel + 1) first cs = (do
      let r ← objectColon r
      let (v, r) ← value r
      let (kvs, r) ← parseMembers value fuel false r
      pure ((String.mk k, v) :: kvs, r)) := by
  rw [parseMembers, h]
  rfl

/-- The elements after the first read back, when each element does. -/
theorem parseElems_write {d : Nat} {xs : List Json} (hx : ∀ x ∈ xs, Readable d x ∧
      ∀ r, Ends r → value (write x ++ r) = .ok (x, r)) {fuel : Nat} (hf : xs.length < fuel)
    (r : List Char) : parseElems value fuel false (writeElemsTail xs ++ r) = .ok (xs, r) := by
  obtain ⟨fuel, rfl⟩ : ∃ f, fuel = f + 1 := ⟨fuel - 1, by omega⟩
  induction xs generalizing fuel with
  | nil => rw [writeElemsTail, List.singleton_append, parseElems, nextElement_close]; rfl
  | cons x xs ih =>
    obtain ⟨hrx, hvx⟩ := hx x (List.mem_cons_self x xs)
    obtain ⟨c, u, hw, hws, hc, -⟩ := write_head hrx
    obtain ⟨fuel, rfl⟩ : ∃ f, fuel = f + 1 := ⟨fuel - 1, by simp at hf; omega⟩
    simp only [writeElemsTail, List.cons_append, List.append_assoc]
    rw [hw, List.cons_append, parseElems_next value (nextElement_comma hws hc), ← List.cons_append, ← hw,
      hvx _ (ends_writeElemsTail xs r)]
    simp only [bind, Except.bind]
    rw [ih (fun y hy => hx y (List.mem_cons_of_mem x hy)) _ (by simpa using hf)]
    rfl

/-- The members after the first read back, when each value does. -/
theorem parseMembers_write {d : Nat} {kvs : List (String × Json)} (hx : ∀ kv ∈ kvs, Readable d kv.2 ∧
      ∀ r, Ends r → value (write kv.2 ++ r) = .ok (kv.2, r)) {fuel : Nat} (hf : kvs.length < fuel)
    (r : List Char) : parseMembers value fuel false (writeMembersTail kvs ++ r) = .ok (kvs, r) := by
  obtain ⟨fuel, rfl⟩ : ∃ f, fuel = f + 1 := ⟨fuel - 1, by omega⟩
  induction kvs generalizing fuel with
  | nil => rw [writeMembersTail, List.singleton_append, parseMembers, nextKey_close]; rfl
  | cons kv kvs ih =>
    obtain ⟨k, v⟩ := kv
    obtain ⟨fuel, rfl⟩ : ∃ f, fuel = f + 1 := ⟨fuel - 1, by simp at hf; omega⟩
    have hv : ∀ r, Ends r → value (write v ++ r) = .ok (v, r) := (hx (k, v) (List.mem_cons_self _ kvs)).2
    simp only [writeMembersTail, List.cons_append, List.append_assoc]
    rw [parseMembers_next value (nextKey_comma k _), objectColon_colon, ok_bind, hv _ (ends_writeMembersTail kvs r)]
    simp only [bind, Except.bind]
    rw [ih (fun y hy => hx y (List.mem_cons_of_mem _ hy)) _ (by simpa using hf)]
    rfl

end

/-- `[` spends a unit of the budget and reads the elements. -/
theorem parseValue_array_open (d : Nat) (rest : List Char) :
    parseValue (d + 2) ('[' :: rest) =
      (parseElems (parseValue (d + 1)) rest.length true rest).map fun p => (.array p.1, p.2) := rfl

/-- `{` spends a unit of the budget and reads the members. -/
theorem parseValue_object_open (d : Nat) (rest : List Char) :
    parseValue (d + 2) ('{' :: rest) =
      (parseMembers (parseValue (d + 1)) rest.length true rest).map fun p => (.object p.1, p.2) := rfl

/-- **The reader takes back what the writer wrote**, followed by anything
that can follow a value. -/
theorem parseValue_write {d : Nat} {v : Json} (h : Readable d v) (r : List Char) (hr : Ends r) :
    parseValue d (write v ++ r) = .ok (v, r) := by
  induction h generalizing r with
  | null => rfl
  | bool b => cases b <;> rfl
  | number h => exact parseValue_writeInt h _ hr
  | string s =>
    show parseValue _ (writeString s ++ r) = _
    rw [writeString_append]
    simp only [parseValue, skipWs, isWs_tokens, Bool.false_eq_true, ite_false, parseStringBody_escapeChars]
    rfl
  | @array d xs hxs ih =>
    cases xs with
    | nil => rfl
    | cons x xs =>
      obtain ⟨c, u, hw, hws, hc, -⟩ := write_head (hxs x (List.mem_cons_self x xs))
      have hl := length_writeElemsTail xs
      show parseValue (d + 2) ('[' :: (write x ++ writeElemsTail xs ++ r)) = _
      rw [parseValue_array_open, List.append_assoc, hw, List.cons_append, List.length_cons,
        parseElems_next _ (nextElement_first hws hc), ← List.cons_append, ← hw,
        ih x (List.mem_cons_self x xs) _ (ends_writeElemsTail xs r)]
      simp only [bind, Except.bind]
      rw [parseElems_write (parseValue (d + 1))
        (fun y hy => ⟨hxs y (List.mem_cons_of_mem x hy), ih y (List.mem_cons_of_mem x hy)⟩)
        (by simp only [List.length_append] at hl ⊢; omega) r]
      rfl
  | @object d kvs hkvs ih =>
    cases kvs with
    | nil => rfl
    | cons kv kvs =>
      obtain ⟨k, v⟩ := kv
      have hl := length_writeMembersTail kvs
      have hv : parseValue (d + 1) (write v ++ (writeMembersTail kvs ++ r)) = .ok (v, writeMembersTail kvs ++ r) :=
        ih (k, v) (List.mem_cons_self _ kvs) _ (ends_writeMembersTail kvs r)
      show parseValue (d + 2) ('{' :: (writeString k ++ ':' :: write v ++ writeMembersTail kvs ++ r)) = _
      simp only [List.append_assoc, List.cons_append, writeString_append]
      rw [parseValue_object_open, List.length_cons, ← writeString_append,
        parseMembers_next _ (nextKey_first k _), objectColon_colon, ok_bind, hv]
      simp only [bind, Except.bind]
      rw [parseMembers_write (parseValue (d + 1))
        (fun y hy => ⟨hkvs y (List.mem_cons_of_mem _ hy), ih y (List.mem_cons_of_mem _ hy)⟩)
        (by simp only [List.length_append, List.length_cons] at hl ⊢; omega) r]
      rfl

end Zks.Json
