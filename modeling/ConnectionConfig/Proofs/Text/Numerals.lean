import Mathlib.Data.List.Induction
import ConnectionConfig.Text.Decimal

/-!
# Numerals and their numbers

A numeral is a digit, or a numeral with a further digit at its end, and its number follows the same
rule. With an optional sign in front it stands for an integer. The readers accept these texts and no
others, and the shortest numeral is the usual decimal.
-/

namespace ConnectionConfig.Decimal

/-- The numerals of a natural number, with any number of zeros in front. -/
inductive IsNumeral : List Char → Nat → Prop
  | digit {d : Nat} (hd : d < 10) : IsNumeral [Nat.digitChar d] d
  | snoc {cs : List Char} {n d : Nat} (h : IsNumeral cs n) (hd : d < 10) :
    IsNumeral (cs ++ [Nat.digitChar d]) (10 * n + d)

/-- The texts that stand for an integer: a numeral with an optional sign. -/
inductive Denotes : List Char → Int → Prop
  | unsigned {cs : List Char} {n : Nat} (h : IsNumeral cs n) : Denotes cs n
  | plus {cs : List Char} {n : Nat} (h : IsNumeral cs n) : Denotes ('+' :: cs) n
  | minus {cs : List Char} {n : Nat} (h : IsNumeral cs n) : Denotes ('-' :: cs) (-n)

/-- What is read as a number is at least one digit and nothing else. -/
theorem readNat?_eq_some_iff {cs : List Char} {n : Nat} :
    readNat? cs = some n ↔
      cs ≠ [] ∧ (∀ c ∈ cs, c.isDigit = true) ∧ Nat.ofDigitChars 10 cs 0 = n := by
  rw [readNat?]
  simp [and_assoc]

private theorem exists_eq_digitChar {c : Char} (h : c.isDigit = true) :
    ∃ d < 10, c = Nat.digitChar d := by
  obtain ⟨hl, hu⟩ := Char.isDigit_iff_toNat.mp h
  simp only [Char.reduceToNat] at hl hu
  refine ⟨c.toNat - 48, by omega, Char.toNat_inj.mp ?_⟩
  rw [Nat.toNat_digitChar_of_lt_ten (by omega)]
  omega

private theorem ofDigitChars_snoc (cs : List Char) {d : Nat} (hd : d < 10) :
    Nat.ofDigitChars 10 (cs ++ [Nat.digitChar d]) 0 = 10 * Nat.ofDigitChars 10 cs 0 + d := by
  rw [Nat.ofDigitChars_append, Nat.ofDigitChars_cons, Nat.ofDigitChars_nil]
  exact congrArg _ (Nat.toNat_digitChar_sub_48_of_lt_ten hd)

/-- What is read as a number is a numeral of it. -/
theorem readNat?_eq_some_iff_isNumeral {cs : List Char} {n : Nat} :
    readNat? cs = some n ↔ IsNumeral cs n := by
  rw [readNat?_eq_some_iff]
  constructor
  · rintro ⟨hne, hdigits, rfl⟩
    induction cs using List.reverseRecOn with
    | nil => exact absurd rfl hne
    | append_singleton cs c ih =>
      rw [List.forall_mem_append, List.forall_mem_singleton] at hdigits
      obtain ⟨d, hd, rfl⟩ := exists_eq_digitChar hdigits.2
      rw [ofDigitChars_snoc cs hd]
      by_cases hcs : cs = []
      · subst hcs
        simpa using IsNumeral.digit hd
      · exact .snoc (ih hcs hdigits.1) hd
  · intro h
    induction h with
    | digit hd =>
      exact ⟨by simp, by simp [Nat.isDigit_digitChar, hd], by simpa using ofDigitChars_snoc [] hd⟩
    | snoc h hd ih =>
      obtain ⟨-, hdigits, rfl⟩ := ih
      refine ⟨by simp, ?_, ofDigitChars_snoc _ hd⟩
      rw [List.forall_mem_append, List.forall_mem_singleton, Nat.isDigit_digitChar]
      exact ⟨hdigits, decide_eq_true hd⟩

private theorem readNat?_sign_cons {sign : Char} (hsign : sign.isDigit = false) (cs : List Char) :
    readNat? (sign :: cs) = none := by
  rw [readNat?, if_neg (by simp [hsign])]

/-- What is read as an integer stands for it. -/
theorem readInt?_eq_some_iff {cs : List Char} {i : Int} : readInt? cs = some i ↔ Denotes cs i := by
  constructor
  · intro h
    rw [readInt?.eq_def] at h
    split at h
    all_goals
      obtain ⟨n, hn, rfl⟩ := Option.map_eq_some_iff.mp h
      rw [readNat?_eq_some_iff_isNumeral] at hn
    · exact .plus hn
    · exact .minus hn
    · exact .unsigned hn
  · intro h
    cases h with
    | plus h | minus h => rw [readInt?, readNat?_eq_some_iff_isNumeral.mpr h]; rfl
    | unsigned h =>
      have hn := readNat?_eq_some_iff_isNumeral.mpr h
      rw [readInt?.eq_def]
      split
      · rw [readNat?_sign_cons rfl] at hn
        cases hn
      · rw [readNat?_sign_cons rfl] at hn
        cases hn
      · rw [hn]
        rfl

/-- A text stands for one integer at most. -/
theorem Denotes.unique {cs : List Char} {i j : Int} (hi : Denotes cs i) (hj : Denotes cs j) :
    i = j :=
  Option.some.inj ((readInt?_eq_some_iff.mpr hi).symm.trans (readInt?_eq_some_iff.mpr hj))

/-- What is read as a word stands for an integer that the word holds. -/
theorem readInt32?_eq_some_iff {cs : List Char} {w : Int32} :
    readInt32? cs = some w ↔ Denotes cs w.toInt := by
  have hl := Int32.le_toInt w
  have hu := Int32.toInt_lt w
  rw [readInt32?, Option.bind_eq_some_iff]
  constructor
  · rintro ⟨i, hi, hw⟩
    split at hw
    · next hrange =>
      cases hw
      rw [Int32.toInt_ofInt_of_le (by omega) (by omega)]
      exact readInt?_eq_some_iff.mp hi
    · cases hw
  · intro h
    refine ⟨w.toInt, readInt?_eq_some_iff.mpr h, ?_⟩
    rw [if_pos (by omega), Int32.ofInt_toInt]

/-- The shortest numeral of an integer is the usual decimal. -/
theorem ofList_ofInt (i : Int) : String.ofList (ofInt i) = toString i := by
  cases i with
  | ofNat n =>
    rw [ofInt, if_neg (by simp)]
    rfl
  | negSucc n =>
    rw [ofInt, if_pos (Int.negSucc_lt_zero n), String.ofList_cons]
    rfl

end ConnectionConfig.Decimal
