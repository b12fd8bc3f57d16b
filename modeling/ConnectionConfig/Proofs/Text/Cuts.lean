import ConnectionConfig.Text.Blank
import ConnectionConfig.Text.Split

/-!
# Cuts of a text are found again

A text put together from parts is cut where the parts meet: after the run of characters with a
property, at the last separator, and before the run that is dropped from the end. The parts of a
text between separators hold its other characters.
-/

namespace ConnectionConfig.Text

/-- The run at the start is the first part if the next part does not carry it on. -/
theorem takeWhile_append_of_head {p : Char → Bool} {a b : List Char} (ha : ∀ c ∈ a, p c = true)
    (hb : ∀ c ∈ b.head?, p c = false) : (a ++ b).takeWhile p = a := by
  rw [List.takeWhile_append_of_pos ha]
  cases b with
  | nil => simp
  | cons c b => simp [hb c rfl]

/-- What follows the run at the start is the next part if that does not carry the run on. -/
theorem dropWhile_append_of_head {p : Char → Bool} {a b : List Char} (ha : ∀ c ∈ a, p c = true)
    (hb : ∀ c ∈ b.head?, p c = false) : (a ++ b).dropWhile p = b := by
  rw [List.dropWhile_append_of_pos ha]
  cases b with
  | nil => rfl
  | cons c b => simp [hb c rfl]

/-- What follows the run at the start does not carry it on. -/
theorem of_mem_head?_dropWhile {p : Char → Bool} {cs : List Char} {c : Char}
    (h : c ∈ (cs.dropWhile p).head?) : p c = false := by
  have hn := List.head?_dropWhile_not p cs
  rw [h] at hn
  simpa using hn

/-- Every character of the run at the start has the property. -/
theorem of_mem_takeWhile {p : Char → Bool} {cs : List Char} {c : Char}
    (h : c ∈ cs.takeWhile p) : p c = true :=
  List.all_eq_true.mp List.all_takeWhile c h

/-- A text has a property throughout, or can be cut at the first character without it. -/
theorem forall_or_exists_cut (p : Char → Bool) (cs : List Char) :
    (∀ c ∈ cs, p c = true) ∨
      ∃ before c after, cs = before ++ c :: after ∧ (∀ a ∈ before, p a = true) ∧ p c = false := by
  induction cs with
  | nil => exact .inl (by simp)
  | cons c cs ih =>
    by_cases hp : p c = true
    · rcases ih with hall | ⟨before, d, after, rfl, hb, hd⟩
      · exact .inl (List.forall_mem_cons.mpr ⟨hp, hall⟩)
      · exact .inr ⟨c :: before, d, after, rfl, List.forall_mem_cons.mpr ⟨hp, hb⟩, hd⟩
    · exact .inr ⟨[], c, cs, rfl, by simp, by simpa using hp⟩

/-- Without the separator there is no last one. -/
theorem cutLast?_eq_none_iff {separator : Char} {cs : List Char} :
    cutLast? separator cs = none ↔ separator ∉ cs := by
  rw [cutLast?, Option.map_eq_none_iff, cutFirst?_eq_none_iff, List.mem_reverse]

/-- A cut at the last separator finds the part after it, free of separators. -/
theorem cutLast?_append_cons {separator : Char} (before : List Char) {after : List Char}
    (h : separator ∉ after) :
    cutLast? separator (before ++ separator :: after) = some (before, after) := by
  have hr : (before ++ separator :: after).reverse =
      after.reverse ++ separator :: before.reverse := by simp
  rw [cutLast?, hr, cutFirst?_append_cons before.reverse (by simpa using h)]
  simp

/-- The two parts and the last separator make up the text, and the part after holds none. -/
theorem eq_append_of_cutLast? {separator : Char} {cs before after : List Char}
    (h : cutLast? separator cs = some (before, after)) :
    cs = before ++ separator :: after ∧ separator ∉ after := by
  obtain ⟨⟨a, b⟩, hc, he⟩ := Option.map_eq_some_iff.mp h
  simp only [Prod.mk.injEq] at he
  obtain ⟨hr, hm⟩ := eq_append_of_cutFirst? hc
  constructor
  · rw [← he.1, ← he.2, ← List.reverse_reverse cs, hr]
    simp
  · rw [← he.2]
    simpa using hm

/-- What is dropped from the end has the property. -/
theorem exists_eq_dropEnd_append (p : Char → Bool) (cs : List Char) :
    ∃ late, cs = dropEnd p cs ++ late ∧ ∀ c ∈ late, p c = true := by
  refine ⟨(cs.reverse.takeWhile p).reverse, ?_, fun c hc ↦ ?_⟩
  · rw [dropEnd, ← List.reverse_append, List.takeWhile_append_dropWhile, List.reverse_reverse]
  · exact of_mem_takeWhile (List.mem_reverse.mp hc)

/-- A character that is not dropped protects everything before it. -/
theorem dropEnd_append_cons {p : Char → Bool} (a : List Char) {c : Char} (b : List Char)
    (hc : p c = false) : dropEnd p (a ++ c :: b) = a ++ c :: dropEnd p b := by
  have hr : (a ++ c :: b).reverse = b.reverse ++ c :: a.reverse := by simp
  rw [dropEnd, dropEnd, hr, List.dropWhile_append]
  split
  · next h =>
    rw [List.isEmpty_iff.mp h, List.dropWhile_cons, if_neg (by simp [hc])]
    simp
  · simp

/-- Characters at the end that are dropped make no difference. -/
theorem dropEnd_append_of_forall {p : Char → Bool} (a : List Char) {b : List Char}
    (hb : ∀ c ∈ b, p c = true) : dropEnd p (a ++ b) = dropEnd p a := by
  rw [dropEnd, List.reverse_append, List.dropWhile_append_of_pos (by simpa using hb), dropEnd]

/-- A text without characters to drop stays as it is. -/
theorem dropEnd_eq_self {p : Char → Bool} {cs : List Char} (h : ∀ c ∈ cs, p c = false) :
    dropEnd p cs = cs := by
  rw [dropEnd]
  cases hr : cs.reverse with
  | nil => simpa using hr.symm
  | cons c r =>
    have hc : c ∈ cs := by
      rw [← List.mem_reverse, hr]
      exact List.mem_cons_self
    rw [List.dropWhile_cons, if_neg (by simp [h c hc]), ← hr, List.reverse_reverse]

/-- A joined text holds the separator and the characters of its parts. -/
theorem mem_intercalate {separator c : Char} {parts : List (List Char)}
    (h : c ∈ [separator].intercalate parts) : c = separator ∨ ∃ part ∈ parts, c ∈ part := by
  induction parts with
  | nil => cases h
  | cons part parts ih =>
    cases parts with
    | nil => exact .inr ⟨part, List.mem_cons_self, by simpa using h⟩
    | cons next parts =>
      rw [List.intercalate_cons_cons, List.append_assoc] at h
      rcases List.mem_append.mp h with hp | hr
      · exact .inr ⟨part, List.mem_cons_self, hp⟩
      · rcases List.mem_cons.mp hr with rfl | hr
        · exact .inl rfl
        · rcases ih hr with rfl | ⟨p, hp, hc⟩
          · exact .inl rfl
          · exact .inr ⟨p, List.mem_cons_of_mem _ hp, hc⟩

/-- The parts between the separators have a property throughout just when all other characters
have it. -/
theorem forall_mem_splitOn_iff {separator : Char} {p : Char → Prop} {cs : List Char} :
    (∀ part ∈ cs.splitOn separator, ∀ c ∈ part, p c) ↔ ∀ c ∈ cs, p c ∨ c = separator := by
  induction cs with
  | nil => simp [List.splitOn_nil]
  | cons c cs ih =>
    rw [List.forall_mem_cons, ← ih, List.splitOn_cons_eq_if_modifyHead]
    by_cases hc : c = separator
    · simp [hc]
    · obtain ⟨part, parts, hparts⟩ := List.exists_cons_of_ne_nil (List.splitOn_ne_nil separator cs)
      simp [hc, hparts, and_assoc]

end ConnectionConfig.Text
