/-
Zks.Format.SerdeTheorems — `from_str` reads back what the derived encoders
write.

`fromStr_toText`: the text of an internally tagged object, its tag first and
then entries under other keys, goes through all three stages of `from_str`:
the tag stage returns the tag and the other entries, the variant's visitor
reads them, and nothing follows.

## How the proofs go

* Fields: each primitive decoder takes back its encoder's value
  (`string_string`, `bool_bool`, and `u8_number`, `u32_number` and
  `u64_number`, all three from `unsigned_number`); `vec_map` lifts an
  element decoder to a `Vec`, by induction on the list.
* Structs: a field list and the entries an encoder writes for it are
  related pointwise (`List.Forall₂`: the same key, a value read without
  error). With distinct keys, each entry finds its own field
  (`find?_key_of_forall₂`), and `visitMap_ok`, by induction on the entries,
  passes the whole object (`structEntries_object`).
* Tags: `parseVariant_write` reads the written tag, and `tagMembers_write`,
  by induction on the entries after it, buffers them as they were written;
  `parseTagged_write` puts the two together after the `{`.
-/
import Mathlib
import Zks.Format.JsonTheorems
import Zks.Format.Serde

namespace Zks.Serde

open Json

/-! ## Primitive fields -/

@[simp] theorem string_string (s : String) : string (.string s) = .ok s := rfl

@[simp] theorem bool_bool (b : Bool) : bool (.bool b) = .ok b := rfl

/-- A non-negative literal below `2^bits` is read as itself. -/
theorem unsigned_number {bits : Nat} (name : String) {n : Nat} (h : n < 2 ^ bits) :
    unsigned bits name (.number n) = .ok n :=
  if_pos h

@[simp] theorem u8_number (x : UInt8) : u8 (.number x.toNat) = .ok x := by
  rw [u8, unsigned_number _ x.toNat_lt_size]
  exact congrArg Except.ok (UInt8.toNat.inj (UInt8.toNat_ofNat_of_lt x.toNat_lt_size))

@[simp] theorem u32_number (x : UInt32) : u32 (.number x.toNat) = .ok x := by
  rw [u32, unsigned_number _ x.toNat_lt_size]
  exact congrArg Except.ok (UInt32.toNat.inj (UInt32.toNat_ofNat_of_lt x.toNat_lt_size))

@[simp] theorem u64_number (x : UInt64) : u64 (.number x.toNat) = .ok x := by
  rw [u64, unsigned_number _ x.toNat_lt_size]
  exact congrArg Except.ok (UInt64.toNat.inj (UInt64.toNat_ofNat_of_lt x.toNat_lt_size))

/-- A `Vec` reads back when each of its elements does. -/
theorem vec_map {α : Type} {elem : Json → Except String α} {f : α → Json} {xs : List α}
    (h : ∀ x ∈ xs, elem (f x) = .ok x) : vec elem (.array (xs.map f)) = .ok xs := by
  induction xs with
  | nil => rfl
  | cons x xs ih =>
    simp only [vec, List.map_cons, List.mapM_cons, h x (List.mem_cons_self x xs)] at ih ⊢
    rw [ih fun y hy => h y (List.mem_cons_of_mem x hy)]
    rfl

@[simp] theorem vec_bytes (b : List UInt8) : vec u8 (bytesJson b) = .ok b :=
  vec_map fun x _ => u8_number x

/-! ## Structs -/

@[simp] theorem field_key {α : Type} (key : String) (elem : Json → Except String α) : (field key elem).key = key :=
  rfl

@[simp] theorem optionField_key {α : Type} (key : String) (elem : Json → Except String α) :
    (optionField key elem).key = key :=
  rfl

/-- A field passes the visitor's check when its decoder reads the value. -/
theorem read_field {α : Type} {key : String} {elem : Json → Except String α} {j : Json} {a : α}
    (h : elem j = .ok a) : (field key elem).read j = .ok () := by
  simp only [field, h, except_map_ok]

theorem read_optionField {α : Type} {key : String} {elem : Json → Except String α} {j : Json} {a : Option α}
    (h : option elem j = .ok a) : (optionField key elem).read j = .ok () := by
  simp only [optionField, h, except_map_ok]

/-- A field list and the entries written for it, pointwise: the same key,
and a value the field reads without error. -/
theorem keys_eq_of_forall₂ {fields : List Field} {kvs : List (String × Json)}
    (h : List.Forall₂ (fun f kv => f.key = kv.1 ∧ f.read kv.2 = .ok ()) fields kvs) :
    fields.map Field.key = kvs.map Prod.fst := by
  induction h with
  | nil => rfl
  | cons hd _ ih => rw [List.map_cons, List.map_cons, hd.1, ih]

/-- With distinct keys, the visitor finds each written entry's own field. -/
theorem find?_key_of_forall₂ {fields : List Field} {kvs : List (String × Json)}
    (h : List.Forall₂ (fun f kv => f.key = kv.1 ∧ f.read kv.2 = .ok ()) fields kvs)
    (hn : (fields.map Field.key).Nodup) {kv : String × Json} (hkv : kv ∈ kvs) :
    ∃ f, fields.find? (fun f => f.key == kv.1) = some f ∧ f.read kv.2 = .ok () := by
  induction h with
  | nil => cases hkv
  | @cons f kv' fs kvs' hd tl ih =>
    rw [List.map_cons, List.nodup_cons] at hn
    rcases List.mem_cons.1 hkv with rfl | hkv
    · exact ⟨f, by simp [hd.1], hd.2⟩
    · have hne : f.key ≠ kv.1 := fun he => hn.1 (by rw [keys_eq_of_forall₂ tl, he]; exact List.mem_map_of_mem _ hkv)
      rw [List.find?_cons_of_neg _ (by simpa using hne)]
      exact ih hn.2 hkv

/-- The loop of `visit_map` passes entries with distinct keys, none seen
before, each finding a field that reads its value, when every field is
among the keys seen or to come. -/
theorem visitMap_ok (fields : List Field) : ∀ (seen : List String) (kvs : List (String × Json)),
    (∀ kv ∈ kvs, ∃ f, fields.find? (fun f => f.key == kv.1) = some f ∧ f.read kv.2 = .ok ()) →
    (kvs.map Prod.fst).Nodup → (∀ kv ∈ kvs, kv.1 ∉ seen) →
    (∀ f ∈ fields, f.key ∈ seen ∨ f.key ∈ kvs.map Prod.fst) → visitMap fields seen kvs = .ok ()
  | seen, [], _, _, _, hc => by
    have hnone : fields.find? (fun f => !f.optional && !seen.contains f.key) = none :=
      List.find?_eq_none.2 fun f hf => by simp [(hc f hf).resolve_right (List.not_mem_nil _)]
    rw [visitMap, hnone]
  | seen, (k, v) :: kvs, hr, hn, hs, hc => by
    obtain ⟨f, hf, hrd⟩ := hr (k, v) (List.mem_cons_self _ _)
    rw [List.map_cons, List.nodup_cons] at hn
    have hks : seen.contains k = false := by simpa using hs (k, v) (List.mem_cons_self _ _)
    rw [visitMap, hf]
    simp only [hks, Bool.false_eq_true, if_false, hrd, ok_bind]
    refine visitMap_ok fields (k :: seen) kvs (fun kv hkv => hr kv (List.mem_cons_of_mem _ hkv)) hn.2
      (fun kv hkv => ?_) (fun f hf => ?_)
    · have hne : kv.1 ≠ k := fun he => hn.1 (List.mem_map.2 ⟨kv, hkv, he⟩)
      simpa [hne] using hs kv (List.mem_cons_of_mem _ hkv)
    · rcases hc f hf with h | h
      · exact .inl (List.mem_cons_of_mem _ h)
      · rcases List.mem_cons.1 (List.map_cons _ _ _ ▸ h) with h | h
        · exact .inl (h ▸ List.mem_cons_self _ _)
        · exact .inr h

/-- **A struct's visitor passes the object its encoder writes**: the keys of
its fields, distinct and in order, each with a value the field reads. -/
theorem structEntries_object {expecting : String} {fields : List Field} {kvs : List (String × Json)}
    (h : List.Forall₂ (fun f kv => f.key = kv.1 ∧ f.read kv.2 = .ok ()) fields kvs)
    (hn : (fields.map Field.key).Nodup) : structEntries expecting fields (.object kvs) = .ok kvs := by
  have hk := keys_eq_of_forall₂ h
  rw [structEntries, visitMap_ok fields [] kvs (fun kv hkv => find?_key_of_forall₂ h hn hkv) (hk ▸ hn)
    (fun _ _ => List.not_mem_nil _) (fun f hf => .inr (hk ▸ List.mem_map_of_mem _ hf))]
  rfl

/-- A required field of checked entries is the first entry under its key. -/
theorem required_cons {α : Type} (k key : String) (v : Json) (kvs : List (String × Json))
    (elem : Json → Except String α) :
    required ((k, v) :: kvs) key elem = if k = key then elem v else required kvs key elem := by
  by_cases h : k = key <;> simp [required, fieldValue, h]

theorem optional_cons {α : Type} (k key : String) (v : Json) (kvs : List (String × Json))
    (elem : Json → Except String α) :
    optional ((k, v) :: kvs) key elem = if k = key then option elem v else optional kvs key elem := by
  by_cases h : k = key <;> simp [optional, fieldValue, h]

/-! ## Internally tagged enums -/

theorem parseVariant_quote (variants : List String) (u : List Char) :
    parseVariant variants ('"' :: u) = (do
      let (s, r) ← parseStringBody u
      if String.mk s ∈ variants then pure (String.mk s, r)
      else throw ⟨.message (unknownVariant (String.mk s) variants), some (utf8Len r)⟩) := rfl

/-- The written tag names its variant. -/
theorem parseVariant_write {variants : List String} {t : String} (ht : t ∈ variants) (r : List Char) :
    parseVariant variants (writeString t ++ r) = .ok (t, r) := by
  rw [writeString_append, parseVariant_quote, parseStringBody_escapeChars, ok_bind]
  exact if_pos ht

section

variable (variants : List String) (value : List Char → Except Error (Json × List Char))

/-- The entries after the tag are buffered as they were written, when each
value reads back and no key is the tag's. -/
theorem tagMembers_write {t : String} {kvs : List (String × Json)} (hk : ∀ kv ∈ kvs, kv.1 ≠ tagKey)
    (hv : ∀ kv ∈ kvs, ∀ r, Ends r → value (write kv.2 ++ r) = .ok (kv.2, r)) {fuel : Nat} (hf : kvs.length < fuel)
    (r : List Char) : tagMembers variants value fuel false (some t) (writeMembersTail kvs ++ r) = .ok ((t, kvs), r) := by
  obtain ⟨fuel, rfl⟩ : ∃ f, fuel = f + 1 := ⟨fuel - 1, by omega⟩
  induction kvs generalizing fuel with
  | nil => rw [writeMembersTail, List.singleton_append, tagMembers, nextKey_close]; rfl
  | cons kv kvs ih =>
    obtain ⟨k, v⟩ := kv
    obtain ⟨fuel, rfl⟩ : ∃ f, fuel = f + 1 := ⟨fuel - 1, by simp at hf; omega⟩
    have hkt : String.mk k.toList ≠ tagKey := hk (k, v) (List.mem_cons_self _ kvs)
    have hvv : ∀ r, Ends r → value (write v ++ r) = .ok (v, r) := hv (k, v) (List.mem_cons_self _ kvs)
    simp only [writeMembersTail, List.cons_append, List.append_assoc]
    rw [tagMembers, nextKey_comma k _, ok_bind]
    simp only [hkt, if_false]
    rw [objectColon_colon, ok_bind, hvv _ (ends_writeMembersTail kvs r), ok_bind,
      ih (fun y hy => hk y (List.mem_cons_of_mem _ hy)) (fun y hy => hv y (List.mem_cons_of_mem _ hy)) _
        (by simpa using hf)]
    rfl

end

theorem parseTagged_open (enumName : String) (variants : List String) (rest : List Char) :
    parseTagged enumName variants ('{' :: rest) = (do
      let ((t, kvs), r) ← tagMembers variants (parseValue (recursionLimit - 1)) rest.length true none rest
      pure ((t, .object kvs), r)) := rfl

/-- **The tag stage reads a written tagged object**: its tag, and the other
entries as the content, when their values nest within the budget left
after the `{`. -/
theorem parseTagged_write (enumName : String) {variants : List String} {t : String} {kvs : List (String × Json)}
    (ht : t ∈ variants) (hk : ∀ kv ∈ kvs, kv.1 ≠ tagKey) (hv : ∀ kv ∈ kvs, Readable (recursionLimit - 1) kv.2)
    (r : List Char) :
    parseTagged enumName variants (write (.object ((tagKey, .string t) :: kvs)) ++ r) = .ok ((t, .object kvs), r) := by
  have hl := length_writeMembersTail kvs
  show parseTagged _ _ ('{' :: (writeString tagKey ++ ':' :: writeString t ++ writeMembersTail kvs ++ r)) = _
  simp only [List.append_assoc, List.cons_append]
  obtain ⟨n, hn⟩ : ∃ n, (writeString tagKey ++ ':' :: (writeString t ++ (writeMembersTail kvs ++ r))).length = n + 1 :=
    ⟨_, by rw [writeString_append, List.length_cons]⟩
  rw [parseTagged_open, hn, tagMembers, nextKey_first, ok_bind]
  simp only [if_true, objectColon_colon, ok_bind]
  rw [parseVariant_write ht, ok_bind, tagMembers_write variants _ hk
    (fun kv hkv => parseValue_write (hv kv hkv)) (by simp [writeString] at hn; omega) r]
  rfl

/-- A readable object's values are readable with one unit less. -/
theorem readable_object_values {d : Nat} {kvs : List (String × Json)} (h : Readable d (.object kvs)) :
    ∀ kv ∈ kvs, Readable (d - 1) kv.2 := by
  cases h with
  | object h => exact h

/-- **`from_str` reads back the text of a tagged object**: the tag stage,
then the variant's visitor, then the end of the text. -/
theorem fromStr_toText {α : Type} (enumName : String) {variants : List String} {t : String}
    {fields : String → Json → Except String α} {kvs : List (String × Json)} {m : α}
    (ht : t ∈ variants) (hk : ∀ kv ∈ kvs, kv.1 ≠ tagKey)
    (hr : Readable recursionLimit (.object ((tagKey, .string t) :: kvs))) (hm : fields t (.object kvs) = .ok m) :
    fromStr enumName variants fields (toText (.object ((tagKey, .string t) :: kvs))) = .ok m := by
  have hp := parseTagged_write enumName ht hk
    (fun kv hkv => readable_object_values hr kv (List.mem_cons_of_mem _ hkv)) []
  rw [List.append_nil] at hp
  rw [fromStr, show (toText (.object ((tagKey, .string t) :: kvs))).toList = write _ from rfl, hp, ok_bind]
  simp only [hm]
  rfl

end Zks.Serde
