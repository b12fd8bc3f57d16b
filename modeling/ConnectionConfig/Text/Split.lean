/-!
# Cutting text at a separator

The first occurrence of a separator cuts a text in two; the last occurrence does so seen from the
other end. Whether a separator occurs at all is part of the answer.
-/

namespace ConnectionConfig.Text

/-- The parts before and after the first `separator`, if there is one. -/
def cutFirst? (separator : Char) (cs : List Char) : Option (List Char × List Char) :=
  match cs.dropWhile (· != separator) with
  | [] => none
  | _ :: rest => some (cs.takeWhile (· != separator), rest)

/-- The parts before and after the last `separator`, if there is one. -/
def cutLast? (separator : Char) (cs : List Char) : Option (List Char × List Char) :=
  (cutFirst? separator cs.reverse).map fun (after, before) ↦ (before.reverse, after.reverse)

/-- Without the separator there is nothing to cut. -/
theorem cutFirst?_eq_none_iff {separator : Char} {cs : List Char} :
    cutFirst? separator cs = none ↔ separator ∉ cs := by
  induction cs with
  | nil => simp [cutFirst?]
  | cons c r ih =>
    unfold cutFirst? at ih ⊢
    by_cases h : c = separator
    · simp [h]
    · have hs : ¬ separator = c := fun e ↦ h e.symm
      simp only [List.mem_cons, hs, false_or, ← ih]
      simp only [List.dropWhile_cons, bne_iff_ne, ne_eq, h, not_false_eq_true, ite_true]
      split <;> simp

/-- A cut at the first separator finds the part before it, free of separators, and the rest. -/
theorem cutFirst?_append_cons {separator : Char} {before : List Char} (after : List Char)
    (h : separator ∉ before) :
    cutFirst? separator (before ++ separator :: after) = some (before, after) := by
  have hall : ∀ c ∈ before, (c != separator) = true := by
    intro c hc
    simp only [bne_iff_ne, ne_eq]
    exact fun e ↦ h (e ▸ hc)
  simp [cutFirst?, List.dropWhile_append_of_pos hall, List.takeWhile_append_of_pos hall]

/-- The two parts and the separator make up the text, and the part before holds no separator. -/
theorem eq_append_of_cutFirst? {separator : Char} {cs before after : List Char}
    (h : cutFirst? separator cs = some (before, after)) :
    cs = before ++ separator :: after ∧ separator ∉ before := by
  induction cs generalizing before with
  | nil => simp [cutFirst?] at h
  | cons c r ih =>
    by_cases hc : c = separator
    · subst hc
      rw [show c :: r = [] ++ c :: r from rfl, cutFirst?_append_cons r (by simp)] at h
      simp only [Option.some.injEq, Prod.mk.injEq] at h
      simp [← h.1, ← h.2]
    · have hstep : cutFirst? separator (c :: r) =
          (cutFirst? separator r).map fun (b, a) ↦ (c :: b, a) := by
        simp only [cutFirst?, List.dropWhile_cons, List.takeWhile_cons, bne_iff_ne, ne_eq, hc,
          not_false_eq_true, ite_true]
        split <;> simp
      rw [hstep, Option.map_eq_some_iff] at h
      obtain ⟨⟨b, a⟩, hr, hba⟩ := h
      simp only [Prod.mk.injEq] at hba
      obtain ⟨rfl, rfl⟩ := hba
      obtain ⟨rfl, hmem⟩ := ih hr
      exact ⟨rfl, by simp [hmem, Ne.symm hc]⟩

end ConnectionConfig.Text
