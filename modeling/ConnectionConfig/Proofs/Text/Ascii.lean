/-!
# Characters of ASCII

What holds of the 128 characters of ASCII is checked one by one. Digits and letters are among them.
-/

namespace ConnectionConfig.Text

/-- A property of all characters of ASCII. -/
theorem forall_ascii {p : Char → Prop} (h : ∀ n < 0x80, p (Char.ofNat n)) {c : Char}
    (hc : c.toNat < 0x80) : p c := by
  rw [← Char.ofNat_toNat c]
  exact h _ hc

/-- What is checked of the characters of a text one by one holds of all of them. -/
theorem forall_mem_of_all {p : Char → Prop} [DecidablePred p] {cs : List Char}
    (h : cs.all (fun c ↦ p c) = true) : ∀ c ∈ cs, p c :=
  fun c hc ↦ of_decide_eq_true (List.all_eq_true.mp h c hc)

/-- A character up to another one of ASCII is one itself. -/
theorem toNat_lt_of_le {c d : Char} (h : c ≤ d) (hd : d.toNat < 0x80) : c.toNat < 0x80 :=
  Nat.lt_of_le_of_lt h hd

/-- A digit is a character of ASCII. -/
theorem toNat_lt_of_isDigit {c : Char} (h : c.isDigit = true) : c.toNat < 0x80 :=
  Nat.lt_of_le_of_lt (Char.isDigit_iff_toNat.mp h).2 (by decide)

/-- A letter or digit is a character of ASCII. -/
theorem toNat_lt_of_isAlphanum {c : Char} (h : c.isAlphanum = true) : c.toNat < 0x80 := by
  rcases Bool.or_eq_true_iff.mp h with ha | hd
  · rcases Bool.or_eq_true_iff.mp ha with hu | hl
    · exact Nat.lt_of_le_of_lt (of_decide_eq_true hu).2 (by decide)
    · have hz : c.val ≤ 'z'.val := of_decide_eq_true (Bool.and_eq_true_iff.mp hl).2
      exact Nat.lt_of_le_of_lt hz (by decide)
  · exact toNat_lt_of_isDigit hd

/-- A character outside ASCII has no small letter of its own. -/
theorem toLower_eq_self {c : Char} (h : ¬ c.toNat < 0x80) : c.toLower = c :=
  dif_neg fun hc ↦ h (Nat.lt_of_le_of_lt hc.2 (by decide))

end ConnectionConfig.Text
