import Mathlib.Algebra.Group.Nat.Defs
import ConnectionConfig.Proofs.Text.Numerals
import ConnectionConfig.Proofs.Text.Trim
import ConnectionConfig.Property.ValueType

/-!
# Canonical values are their own canonical form

The canonical form of a raw text is trimmed, is not blank, and is its own canonical form, whatever
the value type is. It is no longer than the raw text.
-/

namespace ConnectionConfig

namespace Decimal

/-- A written word reads back as itself. -/
theorem readInt32?_ofInt32 (n : Int32) : readInt32? (ofInt32 n).toList = some n := by
  rw [readInt32?_eq_some_iff, ← readInt?_eq_some_iff, ofInt32, String.toList_ofList, readInt?_ofInt]

private theorem isSpace_of_isDigit {c : Char} (h : c.isDigit = true) : Text.isSpace c = false :=
  Text.forall_ascii (p := fun c ↦ c.isDigit = true → Text.isSpace c = false)
    (by decide +kernel) (Text.toNat_lt_of_isDigit h) h

private theorem isSpace_of_mem_ofNat {n : Nat} {c : Char} (h : c ∈ ofNat n) :
    Text.isSpace c = false :=
  isSpace_of_isDigit (Nat.isDigit_of_mem_toDigits (by decide) (by decide) h)

/-- A written number holds no white space. -/
theorem isTrimmed_ofNat (n : Nat) : Text.IsTrimmed (ofNat n) :=
  .of_forall fun _ ↦ isSpace_of_mem_ofNat

/-- A written word holds no white space. -/
theorem isTrimmed_ofInt32 (n : Int32) : Text.IsTrimmed (ofInt32 n).toList := by
  apply Text.IsTrimmed.of_forall
  intro c hc
  rw [ofInt32, String.toList_ofList, ofInt] at hc
  have hd : ∀ c ∈ ofNat n.toInt.natAbs, Text.isSpace c = false := fun _ ↦ isSpace_of_mem_ofNat
  split at hc
  · rcases List.mem_cons.mp hc with rfl | hm
    · rfl
    · exact hd c hm
  · exact hd c hc

/-- A written word is not empty. -/
theorem ofInt32_ne_empty (n : Int32) : ofInt32 n ≠ "" := by
  intro h
  have hr := readInt32?_ofInt32 n
  rw [h] at hr
  cases hr

private theorem ofDigitChars_lt {digits : List Char} (h : ∀ c ∈ digits, c.isDigit = true)
    (init : Nat) : Nat.ofDigitChars 10 digits init < (init + 1) * 10 ^ digits.length := by
  induction digits generalizing init with
  | nil => simp
  | cons c digits ih =>
    have hc : c.isDigit = true := by simp_all
    have hrest := ih (by simp_all) (10 * init + (c.toNat - '0'.toNat))
    have hu : c.toNat ≤ '9'.toNat := (Char.isDigit_iff_toNat.mp hc).2
    have hd : c.toNat - '0'.toNat ≤ 9 := Nat.sub_le_sub_right hu _
    rw [Nat.ofDigitChars_cons, List.length_cons]
    calc Nat.ofDigitChars 10 digits (10 * init + (c.toNat - '0'.toNat))
        < (10 * init + (c.toNat - '0'.toNat) + 1) * 10 ^ digits.length := hrest
      _ ≤ (10 * (init + 1)) * 10 ^ digits.length := Nat.mul_le_mul_right _ (by omega)
      _ = (init + 1) * 10 ^ (digits.length + 1) := by rw [Nat.pow_succ]; ac_rfl

private theorem length_ofNat_le {digits : List Char} {n : Nat} (h : IsNumeral digits n) :
    (ofNat n).length ≤ digits.length := by
  obtain ⟨hne, hdigits, rfl⟩ := readNat?_eq_some_iff.mp (readNat?_eq_some_iff_isNumeral.mpr h)
  have hlt := ofDigitChars_lt hdigits 0
  rw [Nat.zero_add, Nat.one_mul] at hlt
  exact (Nat.length_toDigits_le_iff (by decide) (List.length_pos_iff.mpr hne)).mpr hlt

private theorem length_ofInt_le {cs : List Char} {i : Int} (h : Denotes cs i) :
    (ofInt i).length ≤ cs.length := by
  have hnat : ∀ n : Nat, (ofInt n).length = (ofNat n).length := by
    intro n
    rw [ofInt, if_neg (by omega), Int.natAbs_natCast]
  cases h with
  | unsigned h =>
    rw [hnat]
    exact length_ofNat_le h
  | plus h =>
    rw [hnat]
    exact Nat.le_succ_of_le (length_ofNat_le h)
  | minus h =>
    have hlen := length_ofNat_le h
    rw [ofInt, Int.natAbs_neg, Int.natAbs_natCast, List.length_cons]
    split
    · exact Nat.succ_le_succ hlen
    · exact Nat.le_succ_of_le hlen

/-- The written word is no longer than any numeral of it. -/
theorem length_ofInt32_le {cs : List Char} {n : Int32} (h : readInt32? cs = some n) :
    (ofInt32 n).toList.length ≤ cs.length := by
  rw [ofInt32, String.toList_ofList]
  exact length_ofInt_le (readInt32?_eq_some_iff.mp h)

end Decimal

namespace ValueType

private theorem canonicalTrimmed?_self {type : ValueType} {s v : String}
    (hs : Text.IsTrimmed s.toList) (hne : s ≠ "") (h : type.canonicalTrimmed? s = some v) :
    Text.IsTrimmed v.toList ∧ v ≠ "" ∧ type.canonicalTrimmed? v = some v := by
  cases type with
  | text =>
    cases h
    exact ⟨hs, hne, rfl⟩
  | boolean =>
    rw [canonicalTrimmed?] at h
    split at h
    · cases h
      decide
    · split at h
      · cases h
        decide
      · cases h
  | integer =>
    obtain ⟨n, -, rfl⟩ := Option.map_eq_some_iff.mp h
    refine ⟨Decimal.isTrimmed_ofInt32 n, Decimal.ofInt32_ne_empty n, ?_⟩
    rw [canonicalTrimmed?, Decimal.readInt32?_ofInt32, Option.map_some]
  | oneOf keywords =>
    have hsame : Text.sameLetters v s = true := by
      simpa using List.find?_some h
    refine ⟨hs.of_sameLetters hsame, ?_, ?_⟩
    · rintro rfl
      have hlen := Text.length_eq_of_sameLetters hsame
      exact hne (String.toList_eq_nil_iff.mp (List.length_eq_zero_iff.mp hlen.symm))
    · rw [canonicalTrimmed?, ← h, canonicalTrimmed?]
      congr 1
      funext keyword
      rw [Bool.eq_iff_iff]
      constructor
      · exact fun hk ↦ Text.sameLetters_trans hk hsame
      · exact fun hk ↦ Text.sameLetters_trans hk (Text.sameLetters_comm s v ▸ hsame)

/-- A raw text with a canonical form is not blank. -/
theorem isBlank_of_canonical? {type : ValueType} {raw v : String}
    (h : type.canonical? raw = some v) : Text.isBlank raw = false := by
  rw [← Bool.not_eq_true, Text.isBlank_iff_trim_eq_empty]
  intro he
  rw [canonical?, he] at h
  cases h

/-- Every text that is not blank has a canonical form as a text. -/
theorem isSome_canonical?_text (raw : String) :
    (canonical? .text raw).isSome = !Text.isBlank raw := by
  cases hb : Text.isBlank raw with
  | true =>
    rw [canonical?, Text.isBlank_iff_trim_eq_empty.mp hb]
    rfl
  | false =>
    have hne : (Text.trim raw).isEmpty = false := by
      rw [← Bool.not_eq_true, String.isEmpty_iff, ← Text.isBlank_iff_trim_eq_empty, hb]
      decide
    rw [canonical?, hne]
    rfl

/-- The canonical form of a raw text is that of the text without white space at its ends. -/
theorem canonicalTrimmed?_of_canonical? {type : ValueType} {raw v : String}
    (h : type.canonical? raw = some v) : type.canonicalTrimmed? (Text.trim raw) = some v := by
  rw [canonical?] at h
  split at h
  · cases h
  · exact h

/-- A text without white space at its ends is canonicalized as it stands. -/
theorem canonical?_of_isTrimmed {type : ValueType} {s : String} (ht : Text.IsTrimmed s.toList)
    (hne : s ≠ "") : type.canonical? s = type.canonicalTrimmed? s := by
  rw [canonical?, Text.trim_eq_self ht]
  exact if_neg (by simpa using hne)

private theorem canonicalTrimmed?_self_of_canonical? {type : ValueType} {raw v : String}
    (h : type.canonical? raw = some v) :
    Text.IsTrimmed v.toList ∧ v ≠ "" ∧ type.canonicalTrimmed? v = some v := by
  rw [canonical?] at h
  split at h
  · cases h
  · next hne => exact canonicalTrimmed?_self (Text.isTrimmed_trim raw) (by simpa using hne) h

/-- A canonical value neither starts nor ends with white space. -/
theorem isTrimmed_of_canonical? {type : ValueType} {raw v : String}
    (h : type.canonical? raw = some v) : Text.IsTrimmed v.toList :=
  (canonicalTrimmed?_self_of_canonical? h).1

/-- A canonical value is not empty. -/
theorem ne_empty_of_canonical? {type : ValueType} {raw v : String}
    (h : type.canonical? raw = some v) : v ≠ "" :=
  (canonicalTrimmed?_self_of_canonical? h).2.1

/-- A canonical value is its own canonical form. -/
theorem canonical?_self {type : ValueType} {raw v : String} (h : type.canonical? raw = some v) :
    type.canonical? v = some v := by
  rw [canonical?_of_isTrimmed (isTrimmed_of_canonical? h) (ne_empty_of_canonical? h)]
  exact (canonicalTrimmed?_self_of_canonical? h).2.2

/-- A canonical value is not blank. -/
theorem isBlank_canonical? {type : ValueType} {raw v : String} (h : type.canonical? raw = some v) :
    Text.isBlank v = false :=
  isBlank_of_canonical? (canonical?_self h)

/-- A written word is canonical. -/
theorem canonical?_ofInt32 (n : Int32) :
    canonical? .integer (Decimal.ofInt32 n) = some (Decimal.ofInt32 n) := by
  rw [canonical?_of_isTrimmed (Decimal.isTrimmed_ofInt32 n) (Decimal.ofInt32_ne_empty n),
    canonicalTrimmed?, Decimal.readInt32?_ofInt32, Option.map_some]

/-- A canonical value is no longer than the raw text. -/
theorem length_canonical?_le {type : ValueType} {raw v : String}
    (h : type.canonical? raw = some v) : v.toList.length ≤ raw.toList.length := by
  refine Nat.le_trans ?_ (Text.length_trim_le raw)
  have htrimmed := canonicalTrimmed?_of_canonical? h
  cases type with
  | text =>
    cases htrimmed
    exact Nat.le_refl _
  | boolean =>
    rw [canonicalTrimmed?] at htrimmed
    split at htrimmed
    · next hs =>
      cases htrimmed
      exact Nat.le_of_eq (Text.length_eq_of_sameLetters hs).symm
    · split at htrimmed
      · next hs =>
        cases htrimmed
        exact Nat.le_of_eq (Text.length_eq_of_sameLetters hs).symm
      · cases htrimmed
  | integer =>
    obtain ⟨n, hn, rfl⟩ := Option.map_eq_some_iff.mp htrimmed
    exact Decimal.length_ofInt32_le hn
  | oneOf keywords =>
    have hsame : Text.sameLetters v (Text.trim raw) = true := by
      simpa using List.find?_some htrimmed
    exact Nat.le_of_eq (Text.length_eq_of_sameLetters hsame)

end ValueType

end ConnectionConfig
