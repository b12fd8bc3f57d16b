import ConnectionConfig.Error
import ConnectionConfig.Proofs.Property.Canonical

/-!
# Which texts have a canonical form

White space around a raw text makes no difference to its canonical form. For integers the canonical
form is the usual decimal of the integer that the text stands for, and it exists just when a word of
32 bits holds that integer. For a choice of words it is the first word that the text is in letters
of any case; blank text has none, even where one of the words is empty. The reader of the keywords of
a type picks the value whose keyword is the canonical form.
-/

namespace ConnectionConfig

namespace ValueType

/-- The words that a type chooses from, if it does. -/
def words? : ValueType → Option (List String)
  | .boolean => some ["true", "false"]
  | .oneOf keywords => some keywords
  | .text | .integer => none

/-- The first of the words that is the text in letters of any case. -/
def IsFirstMatch (words : List String) (text v : String) : Prop :=
  ∃ before after, words = before ++ v :: after ∧ Text.sameLetters v text = true ∧
    ∀ word ∈ before, Text.sameLetters word text = false

/-- A trimmed text is read as the value whose keyword is the canonical form of the raw text, and
refused if there is none. -/
structure IsReadAsCanonical (α : Type) [Keyword α] (raw : String) : Prop where
  of_eq_some : ∀ v, canonical? (.oneOf (Keyword.texts α)) raw = some v →
    ∃ value : α, Keyword.read (Text.trim raw) = .ok value ∧
      ∀ other : α, Keyword.text other = v ↔ other = value
  of_eq_none : canonical? (.oneOf (Keyword.texts α)) raw = none →
    (Keyword.read (Text.trim raw) : Except ConnectionError α) =
      .error (.invalidValue (Keyword.kind α) (Text.trim raw))

/-- The canonical form is that of the trimmed text, unless this is empty. -/
theorem canonical?_eq_some_iff {type : ValueType} {raw v : String} :
    type.canonical? raw = some v ↔
      Text.trim raw ≠ "" ∧ type.canonicalTrimmed? (Text.trim raw) = some v := by
  rw [canonical?]
  simp

/-- White space around a raw text makes no difference. -/
theorem canonical?_of_blank_around {before after : String} (hb : Text.isBlank before = true)
    (ha : Text.isBlank after = true) (type : ValueType) (raw : String) :
    type.canonical? (before ++ raw ++ after) = type.canonical? raw := by
  rw [canonical?, Text.trim_of_blank_around hb ha, canonical?]

private theorem canonicalTrimmed?_integer_eq_some_iff {s v : String} :
    canonicalTrimmed? .integer s = some v ↔
      ∃ i : Int, Decimal.Denotes s.toList i ∧ -2147483648 ≤ i ∧ i ≤ 2147483647 ∧
        v = toString i := by
  rw [canonicalTrimmed?, Option.map_eq_some_iff]
  constructor
  · rintro ⟨w, hw, rfl⟩
    have hl := Int32.le_toInt w
    have hu := Int32.toInt_lt w
    refine ⟨w.toInt, Decimal.readInt32?_eq_some_iff.mp hw, by omega, by omega, ?_⟩
    rw [Decimal.ofInt32, Decimal.ofList_ofInt]
  · rintro ⟨i, hi, hl, hu, rfl⟩
    have hword : (Int32.ofInt i).toInt = i := Int32.toInt_ofInt_of_le (by omega) (by omega)
    refine ⟨Int32.ofInt i, ?_, ?_⟩
    · rwa [Decimal.readInt32?_eq_some_iff, hword]
    · rw [Decimal.ofInt32, hword, Decimal.ofList_ofInt]

/-- The canonical form of an integer is its usual decimal, and a text has one if it stands for an
integer that a word holds. -/
theorem canonical?_integer_eq_some_iff {raw v : String} :
    canonical? .integer raw = some v ↔
      ∃ i : Int, Decimal.Denotes (Text.trim raw).toList i ∧ -2147483648 ≤ i ∧ i ≤ 2147483647 ∧
        v = toString i := by
  rw [canonical?_eq_some_iff, canonicalTrimmed?_integer_eq_some_iff]
  refine and_iff_right_of_imp ?_
  rintro ⟨i, hi, -⟩ hempty
  rw [hempty] at hi
  cases hi with
  | unsigned h => cases Decimal.readNat?_eq_some_iff_isNumeral.mpr h

/-- Two texts with canonical forms have the same one just when they stand for the same integer. -/
theorem canonical?_integer_eq_iff {raw other v w : String}
    (hv : canonical? .integer raw = some v) (hw : canonical? .integer other = some w) :
    v = w ↔ ∃ i, Decimal.Denotes (Text.trim raw).toList i ∧
      Decimal.Denotes (Text.trim other).toList i := by
  obtain ⟨i, hi, -, -, rfl⟩ := canonical?_integer_eq_some_iff.mp hv
  obtain ⟨j, hj, -, -, rfl⟩ := canonical?_integer_eq_some_iff.mp hw
  constructor
  · intro h
    have hij : i = j := by
      rw [← Decimal.ofList_ofInt, ← Decimal.ofList_ofInt, String.ofList_inj] at h
      have hread := Decimal.readInt?_ofInt i
      rw [h, Decimal.readInt?_ofInt] at hread
      exact (Option.some.inj hread).symm
    exact ⟨i, hi, hij ▸ hj⟩
  · rintro ⟨k, hik, hjk⟩
    rw [hi.unique hik, hj.unique hjk]

private theorem canonicalTrimmed?_of_words? {type : ValueType} {words : List String}
    (h : type.words? = some words) (s : String) :
    type.canonicalTrimmed? s = words.find? fun word ↦ Text.sameLetters word s := by
  cases type with
  | text | integer => cases h
  | oneOf keywords =>
    cases h
    rfl
  | boolean =>
    cases h
    rw [canonicalTrimmed?, Text.sameLetters_comm s, Text.sameLetters_comm s, List.find?_cons,
      List.find?_cons, List.find?_nil]
    cases Text.sameLetters "true" s
    · cases Text.sameLetters "false" s <;> rfl
    · rfl

/-- The canonical form is the first word that the trimmed text is, unless this is empty. -/
theorem canonical?_eq_some_iff_isFirstMatch {type : ValueType} {words : List String}
    (h : type.words? = some words) {raw v : String} :
    type.canonical? raw = some v ↔
      Text.trim raw ≠ "" ∧ IsFirstMatch words (Text.trim raw) v := by
  rw [canonical?_eq_some_iff, canonicalTrimmed?_of_words? h, List.find?_eq_some_iff_append]
  refine and_congr_right fun _ ↦ ⟨?_, ?_⟩
  · rintro ⟨hv, before, after, hwords, hbefore⟩
    exact ⟨before, after, hwords, hv, by simpa using hbefore⟩
  · rintro ⟨before, after, hwords, hv, hbefore⟩
    exact ⟨hv, before, after, hwords, by simpa using hbefore⟩

/-- There is a canonical form just when the trimmed text is not empty and is one of the words. -/
theorem isSome_canonical?_iff {type : ValueType} {words : List String}
    (h : type.words? = some words) {raw : String} :
    (type.canonical? raw).isSome = true ↔
      Text.trim raw ≠ "" ∧ ∃ word ∈ words, Text.sameLetters word (Text.trim raw) = true := by
  rw [Option.isSome_iff_exists]
  simp only [canonical?_eq_some_iff, canonicalTrimmed?_of_words? h, exists_and_left]
  rw [← Option.isSome_iff_exists, List.find?_isSome]

private theorem map_text_find? {α : Type} [Keyword α] (word : String) :
    (Keyword.find? word : Option α).map Keyword.text =
      (Keyword.texts α).find? fun keyword ↦ Text.sameLetters keyword word := by
  rw [Keyword.texts, List.find?_map]
  rfl

private theorem find?_empty {α : Type} [Keyword α] (hne : "" ∉ Keyword.texts α) :
    (Keyword.find? "" : Option α) = none := by
  rw [← Option.map_eq_none_iff, map_text_find?, List.find?_eq_none]
  intro keyword hmem hsame
  have hempty : keyword = "" := String.toList_eq_nil_iff.mp
    (List.length_eq_zero_iff.mp (Text.length_eq_of_sameLetters hsame))
  exact hne (hempty ▸ hmem)

/-- The keywords of a type are read as their canonical forms, if they are not empty and no two
values share one. -/
theorem isReadAsCanonical {α : Type} [Keyword α] (hne : "" ∉ Keyword.texts α)
    (hinj : Function.Injective (Keyword.text : α → String)) (raw : String) :
    IsReadAsCanonical α raw := by
  constructor
  · intro v hv
    have hfind := canonicalTrimmed?_of_canonical? hv
    rw [canonicalTrimmed?, ← map_text_find?] at hfind
    obtain ⟨value, hvalue, rfl⟩ := Option.map_eq_some_iff.mp hfind
    refine ⟨value, ?_, fun other ↦ hinj.eq_iff⟩
    rw [Keyword.read, hvalue]
  · intro hv
    have hnone : (Keyword.find? (Text.trim raw) : Option α) = none := by
      rw [canonical?] at hv
      split at hv
      · next hempty =>
        rw [String.isEmpty_iff.mp hempty]
        exact find?_empty hne
      · rwa [canonicalTrimmed?, ← map_text_find?, Option.map_eq_none_iff] at hv
    rw [Keyword.read, hnone]

/-- A canonical form is its own one, is neither empty nor has white space at its ends, and does not
depend on white space around the raw text. For integers it is the decimal of the integer that the
text stands for, for a choice of words the first word that the text is, and the reader of a type's
keywords picks the value that it names. -/
theorem canonical?_is_canonical (type : ValueType) (raw : String) :
    (∀ v, type.canonical? raw = some v →
      type.canonical? v = some v ∧ v ≠ "" ∧ Text.IsTrimmed v.toList) ∧
    (∀ before after, Text.isBlank before = true → Text.isBlank after = true →
      type.canonical? (before ++ raw ++ after) = type.canonical? raw) ∧
    (∀ v, canonical? .integer raw = some v ↔
      ∃ i : Int, Decimal.Denotes (Text.trim raw).toList i ∧ -2147483648 ≤ i ∧ i ≤ 2147483647 ∧
        v = toString i) ∧
    (∀ other v w, canonical? .integer raw = some v → canonical? .integer other = some w →
      (v = w ↔ ∃ i, Decimal.Denotes (Text.trim raw).toList i ∧
        Decimal.Denotes (Text.trim other).toList i)) ∧
    (∀ words, type.words? = some words →
      ((type.canonical? raw).isSome = true ↔
        Text.trim raw ≠ "" ∧ ∃ word ∈ words, Text.sameLetters word (Text.trim raw) = true) ∧
      ∀ v, type.canonical? raw = some v → IsFirstMatch words (Text.trim raw) v) ∧
    IsReadAsCanonical ReadPreference raw ∧ IsReadAsCanonical ScanMethod raw ∧
    IsReadAsCanonical DiskUse raw := by
  refine ⟨?_, ?_, ?_, ?_, ?_, ?_, ?_, ?_⟩
  · exact fun v hv ↦ ⟨canonical?_self hv, ne_empty_of_canonical? hv, isTrimmed_of_canonical? hv⟩
  · exact fun before after hb ha ↦ canonical?_of_blank_around hb ha type raw
  · exact fun v ↦ canonical?_integer_eq_some_iff
  · exact fun other v w ↦ canonical?_integer_eq_iff
  · intro words hwords
    exact ⟨isSome_canonical?_iff hwords,
      fun v hv ↦ ((canonical?_eq_some_iff_isFirstMatch hwords).mp hv).2⟩
  · exact isReadAsCanonical (by decide) (by intro a b; cases a <;> cases b <;> decide) raw
  · exact isReadAsCanonical (by decide) (by intro a b; cases a <;> cases b <;> decide) raw
  · exact isReadAsCanonical (by decide) (by intro a b; cases a <;> cases b <;> decide) raw

/-- Of two words that differ in case only the first is the canonical form, also with more white
space around the text. Signs and zeros in front do not make another integer. -/
theorem canonical?_is_canonical_of_padded :
    (canonical? (.oneOf ["no", "A b", "a B"]) "\ta B " = some "A b" ∧
      canonical? (.oneOf ["no", "A b", "a B"]) "A b" = some "A b" ∧
      canonical? (.oneOf ["no", "A b", "a B"]) (" " ++ "\ta B " ++ "\n") = some "A b" ∧
      IsFirstMatch ["no", "A b", "a B"] "a B" "A b") ∧
    canonical? .integer "+007" = some "7" ∧ canonical? .integer " 7" = some "7" ∧
      ∃ i, Decimal.Denotes "+007".toList i ∧ Decimal.Denotes "7".toList i := by
  obtain ⟨hself, haround, -, -, hwords, -⟩ :=
    canonical?_is_canonical (.oneOf ["no", "A b", "a B"]) "\ta B "
  obtain ⟨-, -, -, hsame, -⟩ := canonical?_is_canonical .integer "+007"
  have hword : canonical? (.oneOf ["no", "A b", "a B"]) "\ta B " = some "A b" := by decide
  have hsigned : canonical? .integer "+007" = some "7" := by decide
  have hplain : canonical? .integer " 7" = some "7" := by decide
  refine ⟨⟨hword, (hself _ hword).1, ?_, (hwords _ rfl).2 _ hword⟩, hsigned, hplain,
    (hsame _ _ _ hsigned hplain).mp rfl⟩
  rw [haround " " "\n" (by decide) (by decide), hword]

/-- An empty word is in the list, and the empty text is that word, but it has no canonical form. -/
theorem not_isSome_canonical?_of_empty_word :
    canonical? (.oneOf [""]) "" = none ∧ Text.sameLetters "" (Text.trim "") = true ∧
      ¬ ∀ keywords raw, (canonical? (.oneOf keywords) raw).isSome = true ↔
        ∃ keyword ∈ keywords, Text.sameLetters keyword (Text.trim raw) = true :=
  ⟨by decide, by decide, fun h ↦ absurd (h [""] "") (by decide)⟩

end ValueType

end ConnectionConfig
