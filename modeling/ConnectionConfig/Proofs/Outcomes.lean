import Mathlib.Data.List.Forall2

/-!
# Steps that may fail

Steps in a row give a value just when each of them does, and otherwise fail with the error of the
first one that fails.
-/

namespace ConnectionConfig

variable {ε δ α β : Type}

/-- Two steps succeed just when the second succeeds on what the first gives. -/
theorem bind_eq_ok_iff {x : Except ε α} {f : α → Except ε β} {b : β} :
    (x >>= f) = .ok b ↔ ∃ a, x = .ok a ∧ f a = .ok b := by
  cases x with
  | error e =>
    constructor
    · intro h
      cases h
    · rintro ⟨_, h, _⟩
      cases h
  | ok a =>
    constructor
    · exact fun h ↦ ⟨a, rfl, h⟩
    · rintro ⟨_, h, hf⟩
      cases h
      exact hf

/-- Two steps fail just when the first fails, or the second on what the first gives. -/
theorem bind_eq_error_iff {x : Except ε α} {f : α → Except ε β} {e : ε} :
    (x >>= f) = .error e ↔ x = .error e ∨ ∃ a, x = .ok a ∧ f a = .error e := by
  cases x with
  | error e' =>
    constructor
    · intro h
      cases h
      exact .inl rfl
    · rintro (h | ⟨_, h, _⟩)
      · cases h
        rfl
      · cases h
  | ok a =>
    constructor
    · exact fun h ↦ .inr ⟨a, rfl, h⟩
    · rintro (h | ⟨_, h, hf⟩)
      · cases h
      · cases h
        exact hf

/-- A step that fails with no error succeeds. -/
theorem forall_ne_error_iff {x : Except ε α} :
    (∀ e, ¬ x = .error e) ↔ ∃ a, x = .ok a := by
  cases x with
  | error e => simp
  | ok a => simp

/-- A step that is worked on further succeeds just when it does by itself. -/
theorem map_eq_ok_iff {f : α → β} {x : Except ε α} {b : β} :
    x.map f = .ok b ↔ ∃ a, x = .ok a ∧ f a = b := by
  cases x with
  | error e => simp [Except.map]
  | ok a => simp [Except.map]

/-- A step that is worked on further fails just when it does by itself. -/
theorem map_eq_error_iff {f : α → β} {x : Except ε α} {e : ε} :
    x.map f = .error e ↔ x = .error e := by
  cases x with
  | error e' => simp [Except.map]
  | ok a => simp [Except.map]

/-- A step whose error is told in other words succeeds just when it does by itself. -/
theorem mapError_eq_ok_iff {f : ε → δ} {x : Except ε α} {a : α} :
    x.mapError f = .ok a ↔ x = .ok a := by
  cases x with
  | error e => simp [Except.mapError]
  | ok b => simp [Except.mapError]

/-- A step succeeds on all members of a list just when it does on each, with the results in their
places. -/
theorem mapM_eq_ok_iff {f : α → Except ε β} {as : List α} {bs : List β} :
    as.mapM f = .ok bs ↔ List.Forall₂ (fun a b ↦ f a = .ok b) as bs := by
  induction as generalizing bs with
  | nil =>
    constructor
    · intro h
      cases h
      exact .nil
    · intro h
      cases h
      rfl
  | cons a as ih =>
    simp only [List.mapM_cons, bind_eq_ok_iff, ih]
    constructor
    · rintro ⟨b, hb, rest, hrest, h⟩
      cases h
      exact .cons hb hrest
    · intro h
      cases h with
      | cons hb hrest => exact ⟨_, hb, _, hrest, rfl⟩

/-- A step fails on a list just when it fails on the first member, or succeeds there and fails on
the others. -/
theorem mapM_cons_eq_error_iff {f : α → Except ε β} {a : α} {as : List α} {e : ε} :
    (a :: as).mapM f = .error e ↔ f a = .error e ∨ (∃ b, f a = .ok b) ∧ as.mapM f = .error e := by
  simp only [List.mapM_cons, bind_eq_error_iff]
  constructor
  · rintro (h | ⟨b, hb, hrest | ⟨_, -, h⟩⟩)
    · exact .inl h
    · exact .inr ⟨⟨b, hb⟩, hrest⟩
    · cases h
  · rintro (h | ⟨⟨b, hb⟩, hrest⟩)
    · exact .inl h
    · exact .inr ⟨b, hb, .inl hrest⟩

section First

variable {ι : Type} {fault : ι → ε → Prop} {place : ι} {places : List ι} {e : ε}

/-- The error is one of the first place with any: something is wrong there in this way, and nothing
is wrong before. -/
def IsFirstError (fault : ι → ε → Prop) (places : List ι) (e : ε) : Prop :=
  ∃ before place after, places = before ++ place :: after ∧ fault place e ∧
    ∀ earlier ∈ before, ∀ other, ¬ fault earlier other

/-- Nothing is wrong without places. -/
theorem not_isFirstError_nil : ¬ IsFirstError fault [] e := by
  rintro ⟨before, place, after, h, -⟩
  simp at h

/-- Something is wrong at the first place, or else among the others. -/
theorem isFirstError_cons_iff :
    IsFirstError fault (place :: places) e ↔
      fault place e ∨ (∀ other, ¬ fault place other) ∧ IsFirstError fault places e := by
  constructor
  · rintro ⟨before, bad, after, h, hbad, hbefore⟩
    cases before with
    | nil =>
      cases h
      exact .inl hbad
    | cons first before =>
      cases h
      obtain ⟨hfirst, hbefore⟩ := List.forall_mem_cons.mp hbefore
      exact .inr ⟨hfirst, before, bad, after, rfl, hbad, hbefore⟩
  · rintro (h | ⟨hfirst, before, bad, after, rfl, hbad, hbefore⟩)
    · exact ⟨[], place, places, rfl, h, by simp⟩
    · exact ⟨place :: before, bad, after, rfl, hbad, List.forall_mem_cons.mpr ⟨hfirst, hbefore⟩⟩

/-- There is a first place with an error just when there is any. -/
theorem exists_isFirstError_iff :
    (∃ e, IsFirstError fault places e) ↔ ∃ place ∈ places, ∃ e, fault place e := by
  induction places with
  | nil => simp [not_isFirstError_nil]
  | cons place places ih =>
    simp only [isFirstError_cons_iff, exists_or, exists_and_left, ih, List.exists_mem_cons_iff,
      ← not_exists]
    constructor
    · rintro (h | ⟨-, h⟩)
      · exact .inl h
      · exact .inr h
    · intro h
      by_cases hplace : ∃ e, fault place e
      · exact .inl hplace
      · exact .inr ⟨hplace, h.resolve_left hplace⟩

/-- Nothing is wrong at places that do not count. -/
theorem isFirstError_filter_iff {counts : ι → Bool} :
    IsFirstError fault (places.filter counts) e ↔
      IsFirstError (fun place other ↦ counts place = true ∧ fault place other) places e := by
  induction places with
  | nil => exact iff_of_false not_isFirstError_nil not_isFirstError_nil
  | cons place places ih =>
    cases hcounts : counts place with
    | false => simp [hcounts, isFirstError_cons_iff, ih]
    | true => simp [hcounts, isFirstError_cons_iff, ih]

/-- Two steps fail with the first error, if the first fails with the errors of the first place and
the second with those of the others. -/
theorem bind_eq_error_iff_isFirstError {x : Except ε α} {f : α → Except ε β}
    (hx : ∀ e, x = .error e ↔ fault place e)
    (hf : ∀ a, x = .ok a → (f a = .error e ↔ IsFirstError fault places e)) :
    (x >>= f) = .error e ↔ IsFirstError fault (place :: places) e := by
  rw [bind_eq_error_iff, isFirstError_cons_iff, hx]
  refine or_congr_right ?_
  constructor
  · rintro ⟨a, ha, h⟩
    refine ⟨fun other hother ↦ ?_, (hf a ha).mp h⟩
    rw [← hx, ha] at hother
    cases hother
  · rintro ⟨hno, h⟩
    cases hcase : x with
    | error other => exact absurd ((hx other).mp hcase) (hno other)
    | ok a => exact ⟨a, rfl, (hf a hcase).mpr h⟩

/-- A step fails on a list with the first error of a member. -/
theorem mapM_eq_error_iff_isFirstError {f : α → Except ε β} {as : List α} :
    as.mapM f = .error e ↔ IsFirstError (fun a other ↦ f a = .error other) as e := by
  induction as with
  | nil =>
    constructor
    · intro h
      cases h
    · exact fun h ↦ absurd h not_isFirstError_nil
  | cons a as ih => rw [mapM_cons_eq_error_iff, ih, isFirstError_cons_iff, forall_ne_error_iff]

/-- A step fails on a list just when it fails on some member and succeeds on all before it. -/
theorem mapM_eq_error_iff {f : α → Except ε β} {as : List α} :
    as.mapM f = .error e ↔ ∃ before a after, as = before ++ a :: after ∧ f a = .error e ∧
      ∀ earlier ∈ before, ∃ b, f earlier = .ok b := by
  rw [mapM_eq_error_iff_isFirstError, IsFirstError]
  simp only [forall_ne_error_iff]

end First

end ConnectionConfig
