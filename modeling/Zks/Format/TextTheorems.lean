/-
Zks.Format.TextTheorems — what `str::split(',')` and `str::replace` do to
the texts the transports give them.

* `splitChar_eq_cons` — one piece of a split: the text up to the first
  separator, and the split of what follows it; `splitChar_eq_three`
  then says a text splits into exactly three pieces when it is three
  separator-free pieces joined by two separators.
* `replaceAll_pat_append` — a text that starts with the pattern
  has that match replaced and the rest processed on its own:
  `replace` does not stop after the first match.
* `replaceAll_append_of_head_not_mem` — a start of the text that holds no
  first character of the pattern is passed over as it is.
* `replaceAll_of_no_occurrence` — a text in which the pattern does not occur
  is left as it is.

## How the proofs go

`splitChar_eq_cons` is proved by induction on the text, following the
recursion of `splitChar`, whose result is never empty. For `replaceAux`,
`replaceAux_fuel` says any fuel at least the length of the text gives the
same result, which lets the rest after a match be processed with the fuel
the match left.
-/
import Mathlib
import Zks.Format.Text

namespace Zks.Text

/-! ## Split -/

section Split

variable (sep : Char)

theorem splitChar_ne_nil (cs : List Char) : splitChar sep cs ≠ [] := by
  cases cs with
  | nil => simp [splitChar]
  | cons c cs =>
    unfold splitChar
    split
    · simp
    · split <;> simp

theorem splitChar_of_not_mem {cs : List Char} (h : sep ∉ cs) : splitChar sep cs = [cs] := by
  induction cs with
  | nil => rfl
  | cons c cs ih =>
    rw [List.mem_cons, not_or] at h
    simp [splitChar, Ne.symm h.1, ih h.2]

theorem splitChar_append_sep {p : List Char} (h : sep ∉ p) (rest : List Char) :
    splitChar sep (p ++ sep :: rest) = p :: splitChar sep rest := by
  induction p with
  | nil => simp [splitChar]
  | cons c p ih =>
    rw [List.mem_cons, not_or] at h
    simp [splitChar, Ne.symm h.1, ih h.2]

/-- **One piece of a split**: the first piece is the text up to the first
separator, and the other pieces split what follows it; the text is the
last piece when it holds no separator. -/
theorem splitChar_eq_cons {cs p : List Char} {ps : List (List Char)} :
    splitChar sep cs = p :: ps ↔
      (sep ∉ p ∧ ps = [] ∧ cs = p) ∨
        (sep ∉ p ∧ ∃ rest, cs = p ++ sep :: rest ∧ splitChar sep rest = ps) := by
  constructor
  · intro h
    induction cs generalizing p ps with
    | nil =>
      simp only [splitChar, List.cons.injEq] at h
      obtain ⟨rfl, rfl⟩ := h
      simp
    | cons c cs ih =>
      unfold splitChar at h
      split at h
      · obtain ⟨rfl, rfl⟩ := List.cons.inj h
        exact .inr ⟨List.not_mem_nil _, cs, by simp [*], rfl⟩
      · rename_i hc
        rcases hs : splitChar sep cs with _ | ⟨q, qs⟩
        · exact absurd hs (splitChar_ne_nil sep cs)
        · rw [hs] at h
          obtain ⟨rfl, rfl⟩ := List.cons.inj h
          have hne : sep ≠ c := Ne.symm hc
          rcases ih hs with ⟨hq, rfl, rfl⟩ | ⟨hq, rest, rfl, hr⟩
          · exact .inl ⟨by simp [hne, hq], rfl, rfl⟩
          · exact .inr ⟨by simp [hne, hq], rest, rfl, hr⟩
  · rintro (⟨hp, rfl, rfl⟩ | ⟨hp, rest, rfl, rfl⟩)
    · exact splitChar_of_not_mem sep hp
    · exact splitChar_append_sep sep hp rest

/-- A text splits into exactly three pieces when it is three pieces free
of the separator joined by two separators. -/
theorem splitChar_eq_three {cs a b c : List Char} :
    splitChar sep cs = [a, b, c] ↔
      cs = a ++ sep :: (b ++ sep :: c) ∧ sep ∉ a ∧ sep ∉ b ∧ sep ∉ c := by
  constructor
  · intro h
    rcases (splitChar_eq_cons sep).1 h with ⟨-, h, -⟩ | ⟨ha, r₁, rfl, h₁⟩
    · cases h
    rcases (splitChar_eq_cons sep).1 h₁ with ⟨-, h, -⟩ | ⟨hb, r₂, rfl, h₂⟩
    · cases h
    rcases (splitChar_eq_cons sep).1 h₂ with ⟨hc, -, rfl⟩ | ⟨-, r₃, -, h₃⟩
    · exact ⟨rfl, ha, hb, hc⟩
    · exact absurd h₃ (splitChar_ne_nil sep r₃)
  · rintro ⟨rfl, ha, hb, hc⟩
    rw [splitChar_append_sep sep ha, splitChar_append_sep sep hb, splitChar_of_not_mem sep hc]

end Split

/-! ## Replace -/

section Replace

variable (pat rep : List Char)

theorem replaceAux_fuel_eq {f₁ f₂ : Nat} {cs : List Char} (h₁ : cs.length ≤ f₁) (h₂ : cs.length ≤ f₂) :
    replaceAux pat rep f₁ cs = replaceAux pat rep f₂ cs := by
  induction f₁ generalizing f₂ cs with
  | zero => cases cs <;> cases f₂ <;> simp_all [replaceAux]
  | succ f₁ ih =>
    obtain _ | ⟨c, cs⟩ := cs
    · cases f₂ <;> rfl
    obtain ⟨f₂, rfl⟩ := Nat.exists_eq_add_of_lt (Nat.lt_of_lt_of_le (Nat.succ_pos _) h₂)
    simp only [List.length_cons] at h₁ h₂
    simp only [replaceAux, Nat.zero_add]
    split_ifs with hc
    · have : pat.length ≠ 0 := fun h => hc.1 (List.eq_nil_of_length_eq_zero h)
      have hd : (List.drop pat.length (c :: cs)).length ≤ cs.length := by simp; omega
      exact congrArg (rep ++ ·) (ih (hd.trans (by omega)) (hd.trans (by omega)))
    · exact congrArg (c :: ·) (ih (by omega) (by omega))

/-- Any fuel at least the length of the text gives the same result. -/
theorem replaceAux_fuel {fuel : Nat} {cs : List Char} (h : cs.length ≤ fuel) :
    replaceAux pat rep fuel cs = replaceAux pat rep cs.length cs :=
  replaceAux_fuel_eq pat rep h (Nat.le_refl _)

theorem replaceAux_cons_of_no_match {fuel : Nat} {c : Char} {cs : List Char}
    (h : pat.isPrefixOf (c :: cs) = false) :
    replaceAux pat rep (fuel + 1) (c :: cs) = c :: replaceAux pat rep fuel cs := by
  simp [replaceAux, h]

theorem replaceAux_pat_append (hp : pat ≠ []) (fuel : Nat) (rest : List Char) :
    replaceAux pat rep (fuel + 1) (pat ++ rest) = rep ++ replaceAux pat rep fuel rest := by
  obtain ⟨c, cs, rfl⟩ := List.exists_cons_of_ne_nil hp
  simp [replaceAux]

theorem replaceAux_of_no_occurrence {fuel : Nat} {cs : List Char} (h : ¬ pat <:+: cs) :
    replaceAux pat rep fuel cs = cs := by
  induction fuel generalizing cs with
  | zero => rfl
  | succ fuel ih =>
    cases cs with
    | nil => rfl
    | cons c cs =>
      have hp : pat.isPrefixOf (c :: cs) = false := by
        rw [Bool.eq_false_iff, ne_eq, List.isPrefixOf_iff_prefix]
        exact fun hpre => h hpre.isInfix
      rw [replaceAux_cons_of_no_match pat rep hp,
        ih fun hi => h (hi.trans (List.suffix_cons c cs).isInfix)]

theorem replaceAux_append_of_head_not_mem {c : Char} {ps pre : List Char} (hc : c ∉ pre) (rest : List Char)
    {fuel : Nat} (hf : pre.length ≤ fuel) :
    replaceAux (c :: ps) rep fuel (pre ++ rest) = pre ++ replaceAux (c :: ps) rep (fuel - pre.length) rest := by
  induction pre generalizing fuel with
  | nil => rfl
  | cons x pre ih =>
    rw [List.mem_cons, not_or] at hc
    obtain ⟨fuel, rfl⟩ := Nat.exists_eq_add_of_lt (Nat.lt_of_lt_of_le (Nat.succ_pos _) hf)
    have hp : (c :: ps).isPrefixOf (x :: (pre ++ rest)) = false := by
      simp [List.isPrefixOf, hc.1]
    rw [List.cons_append, replaceAux_cons_of_no_match _ _ hp, ih hc.2 (by simp at hf; omega)]
    simp

end Replace

/-- `replace` on a text that starts with a non-empty pattern: that match,
then every match in the rest. -/
theorem replaceAll_pat_append {pat : String} (hp : pat ≠ "") (rep r : String) :
    replaceAll (pat ++ r) pat rep = rep ++ replaceAll r pat rep := by
  have hp' : pat.toList ≠ [] := fun h => hp (String.ext h)
  obtain ⟨c, cs, hcs⟩ := List.exists_cons_of_ne_nil hp'
  have hlen : (pat ++ r).length = (cs.length + r.toList.length) + 1 := by
    show (pat.toList ++ r.toList).length = _
    rw [List.length_append, hcs, List.length_cons]
    omega
  unfold replaceAll
  rw [hlen, show (pat ++ r).toList = pat.toList ++ r.toList from rfl,
    replaceAux_pat_append _ _ hp', replaceAux_fuel _ _ (by simp)]
  rfl

/-- `replace` passes over a start of the text that holds no first
character of the pattern. -/
theorem replaceAll_append_of_head_not_mem {pre pat : String} {c : Char} {ps : List Char}
    (hpat : pat.toList = c :: ps) (hc : c ∉ pre.toList) (rep r : String) :
    replaceAll (pre ++ r) pat rep = pre ++ replaceAll r pat rep := by
  unfold replaceAll
  have hlen : (pre ++ r).length = pre.toList.length + r.toList.length := String.length_append pre r
  rw [show (pre ++ r).toList = pre.toList ++ r.toList from rfl, hpat, hlen,
    replaceAux_append_of_head_not_mem _ hc _ (Nat.le_add_right _ _), Nat.add_sub_cancel_left]
  rfl

/-- `replace` leaves a text in which the pattern does not occur as it is. -/
theorem replaceAll_of_no_occurrence {s pat : String} (h : ¬ pat.toList <:+: s.toList) (rep : String) :
    replaceAll s pat rep = s :=
  congrArg String.mk (replaceAux_of_no_occurrence _ _ h)

end Zks.Text
