import Mathlib.Algebra.GroupWithZero.Nat
import ConnectionConfig.Proofs.Uri.Escapes

/-!
# How long a text is once it is read

A text with escapes reads as at most as many characters as it has, also after more of them have been
escaped. At a mark, which is no part of an escape, the count of the whole is that of the parts.
-/

namespace ConnectionConfig.Percent

/-- How many characters a text with escapes reads as, with one for each ill-formed part. -/
def readLength (cs : List Char) : Nat := (Utf8.chars (decode cs)).length

private theorem readLength_utf8_append (c : Char) {cs rest : List Char}
    (h : decode cs = String.utf8EncodeChar c ++ decode rest) :
    readLength cs = readLength rest + 1 := by
  rw [readLength, h, Utf8.chars_utf8EncodeChar_append, List.length_cons, readLength]

/-- A character other than the percent sign counts as one. -/
theorem readLength_cons_of_ne {c : Char} (h : c ≠ '%') (rest : List Char) :
    readLength (c :: rest) = readLength rest + 1 :=
  readLength_utf8_append c (decode_cons_of_ne h rest)

private theorem ne_percent_of_hexDigit? {c : Char} (h : (hexDigit? c).isSome = true) : c ≠ '%' := by
  rintro rfl
  cases h

/-- One more character counts as at most one more. -/
theorem readLength_cons_le (c : Char) (rest : List Char) :
    readLength (c :: rest) ≤ readLength rest + 1 := by
  by_cases hc : c = '%'
  · subst hc
    by_cases ho : OpensEscape rest
    · obtain ⟨a, b, rest, rfl, ha, hb⟩ := ho
      obtain ⟨h, hh⟩ := Option.isSome_iff_exists.mp ha
      obtain ⟨l, hl⟩ := Option.isSome_iff_exists.mp hb
      have hbyte : readLength ('%' :: a :: b :: rest) ≤ readLength rest + 1 := by
        rw [readLength, decode_percent_digits hh hl]
        exact Utf8.length_chars_cons_le _ _
      have htwo : readLength (a :: b :: rest) = readLength rest + 1 + 1 := by
        rw [readLength_cons_of_ne (ne_percent_of_hexDigit? ha),
          readLength_cons_of_ne (ne_percent_of_hexDigit? hb)]
      omega
    · exact Nat.le_of_eq (readLength_utf8_append '%' (decode_percent ho))
  · exact Nat.le_of_eq (readLength_cons_of_ne hc rest)

private theorem readLength_escapes (c : Char) (rest : List Char) :
    readLength ((String.utf8EncodeChar c).flatMap escape ++ rest) = readLength rest + 1 :=
  readLength_utf8_append c (decode_flatMap_escape _ rest)

/-- An escaped text counts as at most as many characters as the text has. -/
theorem readLength_encode_le (reserved : Char → Bool) (cs : List Char) :
    readLength (encode reserved cs) ≤ cs.length := by
  induction cs with
  | nil => exact Nat.le_refl _
  | cons c cs ih =>
    rw [encode_cons, List.length_cons]
    split
    · rw [readLength_escapes]
      omega
    · have hstep := readLength_cons_le c (encode reserved cs)
      rw [List.cons_append, List.nil_append]
      omega

/-- A mark is no part of an escape, and its bytes are no part of another character. -/
structure IsMark (c : Char) : Prop where
  ne_percent : c ≠ '%'
  not_digit : hexDigit? c = none
  fresh : ∀ b ∈ (String.utf8EncodeChar c).head?, Utf8.continues b = false

instance (c : Char) : Decidable (IsMark c) :=
  decidable_of_iff (c ≠ '%' ∧ hexDigit? c = none ∧
    (String.utf8EncodeChar c).head?.all (fun b ↦ !Utf8.continues b) = true)
    ⟨fun h ↦ ⟨h.1, h.2.1, by simpa [Option.all_eq_true] using h.2.2⟩,
      fun h ↦ ⟨h.1, h.2, by simpa [Option.all_eq_true] using h.3⟩⟩

/-- A count that is that of the parts and one for the mark between them is so for any number of
parts. -/
theorem count_intercalate {count : List Char → Nat} {c : Char}
    (h : ∀ a b, count (a ++ c :: b) = count a + count b + 1) {parts : List (List Char)}
    (hne : parts ≠ []) :
    count ([c].intercalate parts) + 1 = (parts.map fun part ↦ count part + 1).sum := by
  induction parts with
  | nil => exact absurd rfl hne
  | cons part parts ih =>
    cases parts with
    | nil => simp
    | cons next parts =>
      rw [List.intercalate_cons_cons, List.append_assoc, List.singleton_append, h, List.map_cons,
        List.sum_cons, ← ih (List.cons_ne_nil _ _)]
      omega

/-- At a mark the count of the whole is that of the parts. -/
theorem readLength_append_cons (a : List Char) {c : Char} (h : IsMark c) (b : List Char) :
    readLength (a ++ c :: b) = readLength a + readLength b + 1 := by
  have hd : decode (c :: b) = String.utf8EncodeChar c ++ decode b :=
    decode_cons_of_ne h.ne_percent b
  have hfresh : Utf8.StartsFresh (decode (c :: b)) := by
    intro byte hb
    obtain ⟨first, bytes, hf⟩ :=
      List.exists_cons_of_ne_nil (String.utf8EncodeChar_ne_nil (c := c))
    refine h.fresh byte ?_
    rw [hd, hf] at hb
    rw [hf]
    exact hb
  have happend : decode (a ++ c :: b) = decode a ++ decode (c :: b) := decode_append a fun d hd ↦ by
    rw [← Option.some.inj hd]
    exact h.not_digit
  rw [readLength, happend, Utf8.chars_append _ hfresh, List.length_append, ← readLength,
    ← readLength, readLength_cons_of_ne h.ne_percent, Nat.add_assoc]

/-- How many characters an option value reads as. -/
def formLength (cs : List Char) : Nat := (decodeForm cs).length

private theorem formLength_eq (cs : List Char) : formLength cs = readLength (plusToSpace cs) := by
  rw [formLength, decodeForm, Utf8.decodeTolerant, List.length_map, readLength, plusToSpace]

/-- An escaped option value counts as at most as many characters as the text has. -/
theorem formLength_encode_le (reserved : Char → Bool) (cs : List Char) :
    formLength (encode reserved cs) ≤ cs.length := by
  rw [formLength_eq]
  induction cs with
  | nil => exact Nat.le_refl _
  | cons c cs ih =>
    rw [encode_cons, plusToSpace, List.map_append, ← plusToSpace, ← plusToSpace, List.length_cons]
    split
    · have hplus : ∀ d ∈ (String.utf8EncodeChar c).flatMap escape, d ≠ '+' := by
        intro d hd
        obtain ⟨b, -, hb⟩ := List.mem_flatMap.mp hd
        rintro rfl
        exact absurd (isEscapeChar_of_mem_escape hb) (by decide)
      rw [plusToSpace_eq_self hplus, readLength_escapes]
      omega
    · have hstep :=
        readLength_cons_le (if c = '+' then ' ' else c) (plusToSpace (encode reserved cs))
      rw [plusToSpace, List.map_cons, List.map_nil, List.cons_append, List.nil_append]
      omega

/-- At a mark the count of the whole is that of the parts. -/
theorem formLength_append_cons (a : List Char) {c : Char} (h : IsMark c) (hp : c ≠ '+')
    (b : List Char) : formLength (a ++ c :: b) = formLength a + formLength b + 1 := by
  rw [formLength_eq, formLength_eq, formLength_eq, plusToSpace, List.map_append, List.map_cons,
    if_neg hp, readLength_append_cons _ h, plusToSpace, plusToSpace]

end ConnectionConfig.Percent
