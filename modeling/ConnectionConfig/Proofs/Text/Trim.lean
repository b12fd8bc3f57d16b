import Mathlib.Data.List.TakeWhile
import ConnectionConfig.Proofs.Text.Ascii
import ConnectionConfig.Proofs.Text.Cuts
import ConnectionConfig.Text.Letters

/-!
# Trimmed text

Trimming gives a text that neither starts nor ends with white space, and leaves such a text alone.
Whether a text is trimmed does not depend on the case of its letters.
-/

namespace ConnectionConfig.Text

/-- There is no white space at the ends. -/
def IsTrimmed (cs : List Char) : Prop :=
  (∀ c ∈ cs.head?, isSpace c = false) ∧ ∀ c ∈ cs.getLast?, isSpace c = false

instance (cs : List Char) : Decidable (IsTrimmed cs) :=
  decidable_of_iff (cs.head?.all (fun c ↦ !isSpace c) = true ∧
    cs.getLast?.all (fun c ↦ !isSpace c) = true) (by simp [IsTrimmed, Option.all_eq_true])

/-- A text with a character that is no white space is not blank. -/
theorem isBlank_eq_false_of_mem {text : String} {c : Char} (hc : c ∈ text.toList)
    (hs : isSpace c = false) : isBlank text = false :=
  List.all_eq_false.mpr ⟨c, hc, by simp [hs]⟩

private theorem dropEnd_eq_self_of_getLast? {p : Char → Bool} {cs : List Char}
    (h : ∀ c ∈ cs.getLast?, p c = false) : dropEnd p cs = cs := by
  rw [dropEnd]
  cases hr : cs.reverse with
  | nil => simpa using hr.symm
  | cons c r =>
    have hc : c ∈ cs.getLast? := by
      rw [← List.head?_reverse, hr]
      rfl
    rw [List.dropWhile_cons, if_neg (by simp [h c hc]), ← hr, List.reverse_reverse]

private theorem of_mem_getLast?_dropEnd {p : Char → Bool} {cs : List Char} {c : Char}
    (h : c ∈ (dropEnd p cs).getLast?) : p c = false := by
  rw [dropEnd, List.getLast?_reverse] at h
  exact of_mem_head?_dropWhile h

/-- A trimmed text stays as it is. -/
theorem trimChars_eq_self {cs : List Char} (h : IsTrimmed cs) : trimChars cs = cs := by
  have hd : cs.dropWhile isSpace = cs := by
    cases cs with
    | nil => rfl
    | cons c cs => exact List.dropWhile_cons_of_neg (by simp [h.1 c rfl])
  rw [trimChars, hd, dropEnd_eq_self_of_getLast? h.2]

/-- Trimming gives a trimmed text. -/
theorem isTrimmed_trimChars (cs : List Char) : IsTrimmed (trimChars cs) := by
  refine ⟨fun c hc ↦ ?_, fun c hc ↦ of_mem_getLast?_dropEnd hc⟩
  obtain ⟨late, hl, -⟩ := exists_eq_dropEnd_append isSpace (cs.dropWhile isSpace)
  rw [trimChars] at hc
  have hhead : c ∈ (cs.dropWhile isSpace).head? := by
    rw [hl, List.head?_append, hc]
    rfl
  exact of_mem_head?_dropWhile hhead

/-- Trimming a trimmed text changes nothing. -/
theorem trim_eq_self {text : String} (h : IsTrimmed text.toList) : trim text = text := by
  rw [trim, trimChars_eq_self h, String.ofList_toList]

/-- Trimming gives a trimmed text. -/
theorem isTrimmed_trim (text : String) : IsTrimmed (trim text).toList := by
  rw [trim, String.toList_ofList]
  exact isTrimmed_trimChars _

private theorem trimChars_append_of_all {cs late : List Char} (hl : late.all isSpace = true) :
    trimChars (cs ++ late) = trimChars cs := by
  have hlate := List.all_eq_true.mp hl
  rw [trimChars, List.dropWhile_append]
  split
  · next hcs =>
    rw [List.dropWhile_eq_nil_iff.mpr hlate, trimChars, List.isEmpty_iff.mp hcs]
  · rw [dropEnd_append_of_forall _ hlate, trimChars]

/-- White space around a text makes no difference to what is left of it. -/
theorem trim_of_blank_around {before after : String} (hb : isBlank before = true)
    (ha : isBlank after = true) (text : String) : trim (before ++ text ++ after) = trim text := by
  have hchars : (before ++ text ++ after).toList =
      before.toList ++ (text.toList ++ after.toList) := by
    simp
  rw [trim, hchars, trimChars, List.dropWhile_append_of_pos (List.all_eq_true.mp hb), ← trimChars,
    trimChars_append_of_all ha, trim]

/-- Trimming makes a text no longer. -/
theorem length_trim_le (text : String) : (trim text).toList.length ≤ text.toList.length := by
  obtain ⟨late, hl, -⟩ := exists_eq_dropEnd_append isSpace (text.toList.dropWhile isSpace)
  have hlength := congrArg List.length hl
  rw [List.length_append] at hlength
  have hstart := (List.dropWhile_suffix isSpace (l := text.toList)).length_le
  rw [trim, String.toList_ofList, trimChars]
  omega

/-- A text without white space is trimmed. -/
theorem IsTrimmed.of_forall {cs : List Char} (h : ∀ c ∈ cs, isSpace c = false) : IsTrimmed cs :=
  ⟨fun c hc ↦ h c (List.mem_of_mem_head? hc), fun c hc ↦ h c (List.mem_of_getLast? hc)⟩

/-- Letters of another case leave the length alone. -/
theorem length_eq_of_sameLetters {a b : String} (h : sameLetters a b = true) :
    a.toList.length = b.toList.length := by
  have hlen := congrArg List.length (beq_iff_eq.mp h)
  simpa only [List.length_map] using hlen

private theorem isSpace_toLower (c : Char) : isSpace c.toLower = isSpace c := by
  by_cases h : c.toNat < 0x80
  · exact forall_ascii (p := fun c ↦ isSpace c.toLower = isSpace c) (by decide +kernel) h
  · rw [toLower_eq_self h]

/-- Comparison without regard to case is transitive. -/
theorem sameLetters_trans {a b c : String} (hab : sameLetters a b = true)
    (hbc : sameLetters b c = true) : sameLetters a c = true := by
  simp only [sameLetters, beq_iff_eq] at hab hbc ⊢
  exact hab.trans hbc

/-- Letters of another case leave a trimmed text trimmed. -/
theorem IsTrimmed.of_sameLetters {a b : String} (h : IsTrimmed b.toList)
    (hab : sameLetters a b = true) : IsTrimmed a.toList := by
  have he : a.toList.map Char.toLower = b.toList.map Char.toLower := by
    simpa [sameLetters] using hab
  refine ⟨fun c hc ↦ ?_, fun c hc ↦ ?_⟩
  · have hh := congrArg List.head? he
    rw [List.head?_map, List.head?_map, hc, Option.map_some, eq_comm, Option.map_eq_some_iff] at hh
    obtain ⟨d, hd, hdc⟩ := hh
    rw [← isSpace_toLower, ← hdc, isSpace_toLower]
    exact h.1 d hd
  · have hl := congrArg List.getLast? he
    rw [List.getLast?_map, List.getLast?_map, hc, Option.map_some, eq_comm,
      Option.map_eq_some_iff] at hl
    obtain ⟨d, hd, hdc⟩ := hl
    rw [← isSpace_toLower, ← hdc, isSpace_toLower]
    exact h.2 d hd

end ConnectionConfig.Text
