import ConnectionConfig.PropertyMap.Basic

/-!
# Sequences of offers

A sequence of offers is followed through a map by what one offer does. Three relations are kept by
each offer and so by every sequence: on top of a seed the map is a left-biased merge, away from one
key it does not see the offers for that key, and the value of a key is the first that is not blank.
Of a sequence an empty map holds the first entry of each key that is not blank, in turn.
-/

namespace ConnectionConfig.PropertyMap

/-- The empty map holds no entries. -/
theorem toList_empty : empty.toList = [] := rfl

/-- Maps are equal whenever their entries are the same in the same order. -/
theorem toList_inj {a b : PropertyMap} : a.toList = b.toList ↔ a = b :=
  ⟨ext_entries, fun h ↦ congrArg toList h⟩

/-- A key has a value exactly when an entry has this key. -/
theorem contains_eq_true_iff {m : PropertyMap} {key : String} :
    m.contains key = true ↔ ∃ value, (key, value) ∈ m.toList := by
  simp [contains, keys, toList]

/-- The value of a key is the one that stands with it in an entry. -/
theorem get?_eq_some_iff {m : PropertyMap} {key value : String} :
    m.get? key = some value ↔ (key, value) ∈ m.toList := by
  rw [get?, List.lookup_eq_some_iff, toList]
  constructor
  · rintro ⟨before, after, he, -⟩
    rw [he]
    exact List.mem_append_right before List.mem_cons_self
  · intro hm
    obtain ⟨before, after, he⟩ := List.append_of_mem hm
    have hnodup := m.nodup_keys
    rw [he, List.map_append, List.nodup_append] at hnodup
    refine ⟨before, after, he, fun e hb ↦ ?_⟩
    have hne := hnodup.2.2 e.1 (List.mem_map_of_mem hb) key List.mem_cons_self
    simpa using hne.symm

/-- Without offers a map stays as it is. -/
theorem offerAll_nil (m : PropertyMap) : m.offerAll [] = m := rfl

/-- The first of several offers is made first. -/
theorem offerAll_cons (m : PropertyMap) (e : String × String) (rest : List (String × String)) :
    m.offerAll (e :: rest) = (m.offer e.1 e.2).offerAll rest := rfl

/-- An offer adds one entry at the end if it is taken. -/
theorem toList_offer (m : PropertyMap) (key value : String) :
    (m.offer key value).toList =
      if m.accepts key value = true then m.toList ++ [(key, value)] else m.toList := by
  split
  · next h => exact toList_offer_of_accepts h
  · next h => rw [offer_of_not_accepts (by simpa using h)]

/-- The entries of `m` are those of `seed`, followed by those of `late` under keys that the seed
does not have. -/
def IsMerge (seed late m : PropertyMap) : Prop :=
  m.toList = seed.toList ++ late.toList.filter fun e ↦ !seed.contains e.1

private theorem isMerge_empty (seed : PropertyMap) : IsMerge seed empty seed := by
  simp [IsMerge, toList_empty]

/-- A key of a merge is a key of the seed or of what came on top. -/
theorem IsMerge.contains_eq {seed late m : PropertyMap} (h : IsMerge seed late m) (key : String) :
    m.contains key = (seed.contains key || late.contains key) := by
  rw [Bool.eq_iff_iff, Bool.or_eq_true, contains_eq_true_iff, contains_eq_true_iff,
    contains_eq_true_iff, h]
  constructor
  · rintro ⟨value, hv⟩
    rcases List.mem_append.mp hv with hs | hl
    · exact .inl ⟨value, hs⟩
    · exact .inr ⟨value, (List.mem_filter.mp hl).1⟩
  · rintro (⟨value, hs⟩ | ⟨value, hl⟩)
    · exact ⟨value, List.mem_append_left _ hs⟩
    · by_cases hk : seed.contains key = true
      · obtain ⟨w, hw⟩ := contains_eq_true_iff.mp hk
        exact ⟨w, List.mem_append_left _ hw⟩
      · exact ⟨value, List.mem_append_right _ (List.mem_filter.mpr ⟨hl, by simpa using hk⟩)⟩

/-- The same offer to a merge and to what came on top leaves a merge. -/
theorem IsMerge.offer {seed late m : PropertyMap} (h : IsMerge seed late m) (key value : String) :
    IsMerge seed (late.offer key value) (m.offer key value) := by
  have hm : m.toList = seed.toList ++ late.toList.filter fun e ↦ !seed.contains e.1 := h
  rw [IsMerge, toList_offer, toList_offer, accepts, accepts, h.contains_eq]
  cases Text.isBlank value with
  | true => simpa using hm
  | false =>
    cases hs : seed.contains key with
    | true =>
      -- The merge refuses the value; what came on top may take it, and the filter drops it.
      cases late.contains key with
      | true => simpa using hm
      | false => simpa [hs] using hm
    | false =>
      cases late.contains key with
      | true => simpa using hm
      | false => simp [hs, hm]

/-- Offers on top of a seed come after its entries, without the keys that it has. -/
theorem isMerge_offerAll (seed : PropertyMap) (entries : List (String × String)) :
    IsMerge seed (empty.offerAll entries) (seed.offerAll entries) := by
  suffices hrun : ∀ late m, IsMerge seed late m →
      IsMerge seed (late.offerAll entries) (m.offerAll entries) from
    hrun empty seed (isMerge_empty seed)
  induction entries with
  | nil => exact fun _ _ h ↦ h
  | cons e rest ih => exact fun late m h ↦ ih _ _ (h.offer e.1 e.2)

/-- The first entry of each key. -/
def firstOfEach : List (String × String) → List (String × String)
  | [] => []
  | e :: rest => e :: (firstOfEach rest).filter fun f ↦ f.1 != e.1

/-- The first entries of the keys are among the entries, in the same order. -/
theorem sublist_firstOfEach (entries : List (String × String)) :
    (firstOfEach entries).Sublist entries := by
  induction entries with
  | nil => exact List.Sublist.refl _
  | cons e rest ih => exact (List.filter_sublist.trans ih).cons_cons e

/-- Entries with different keys are the first of their keys. -/
theorem firstOfEach_eq_self {entries : List (String × String)}
    (h : (entries.map Prod.fst).Nodup) : firstOfEach entries = entries := by
  induction entries with
  | nil => rfl
  | cons e rest ih =>
    rw [List.map_cons, List.nodup_cons] at h
    rw [firstOfEach, ih h.2, List.filter_eq_self.mpr]
    exact fun f hf ↦ bne_iff_ne.mpr fun hk ↦ h.1 (List.mem_map.mpr ⟨f, hf, hk⟩)

/-- Of a sequence of offers an empty map takes the first of each key that is not blank. -/
theorem toList_offerAll_empty (entries : List (String × String)) :
    (empty.offerAll entries).toList =
      firstOfEach (entries.filter fun e ↦ !Text.isBlank e.2) := by
  induction entries with
  | nil => rfl
  | cons e rest ih =>
    rw [offerAll_cons]
    cases hb : Text.isBlank e.2 with
    | true =>
      rw [offer_of_not_accepts (by simp [accepts, hb]), List.filter_cons_of_neg (by simp [hb]), ih]
    | false =>
      have haccepts : empty.accepts e.1 e.2 = true := by
        simp [accepts, hb, contains, keys, empty]
      have hone : (empty.offer e.1 e.2).toList = [e] := by
        rw [toList_offer_of_accepts haccepts, toList_empty, List.nil_append]
      have hcontains : ∀ key, (!(empty.offer e.1 e.2).contains key) = (key != e.1) := by
        intro key
        rw [contains, keys, show (empty.offer e.1 e.2).entries = [e] from hone, Bool.eq_iff_iff]
        simp
      have hmerge : IsMerge _ _ _ := isMerge_offerAll (empty.offer e.1 e.2) rest
      rw [List.filter_cons_of_pos (by simp [hb]), firstOfEach, ← ih, hmerge, hone,
        List.singleton_append]
      simp only [hcontains]

/-- The first offer comes after the seed unless that has its key. The other entries are the same
whatever is offered first under this key. -/
theorem exists_toList_offerAll_cons (seed : PropertyMap) (key : String)
    (entries : List (String × String)) :
    ∃ others, ∀ value, Text.isBlank value = false →
      (seed.offerAll ((key, value) :: entries)).toList =
        seed.toList ++ if seed.contains key = true then others else (key, value) :: others := by
  refine ⟨((firstOfEach (entries.filter fun e ↦ !Text.isBlank e.2)).filter fun e ↦
    e.1 != key).filter fun e ↦ !seed.contains e.1, fun value hb ↦ ?_⟩
  have hmerge : IsMerge _ _ _ := isMerge_offerAll seed ((key, value) :: entries)
  rw [hmerge, toList_offerAll_empty, List.filter_cons_of_pos (by simp [hb]), firstOfEach,
    List.filter_cons]
  cases seed.contains key with
  | true => rfl
  | false => rfl

/-- Removing a key and an offer for it cancel. -/
theorem erase_offer_self (m : PropertyMap) (key value : String) :
    (m.offer key value).erase key = m.erase key := by
  rw [← toList_inj, toList_erase, toList_erase, toList_offer]
  split
  · simp
  · rfl

/-- Removing a key commutes with an offer for another key. -/
theorem erase_offer_of_ne {m : PropertyMap} {key other : String} (value : String)
    (h : other ≠ key) : (m.offer other value).erase key = (m.erase key).offer other value := by
  have hc : (m.erase key).contains other = m.contains other := by
    rw [Bool.eq_iff_iff, contains_eq_true_iff, contains_eq_true_iff, toList_erase]
    simp [h]
  rw [← toList_inj, toList_erase, toList_offer, toList_offer, accepts, accepts, hc, toList_erase]
  split
  · simp [h]
  · rfl

/-- Away from a key a map does not see the offers for it. -/
theorem erase_offerAll (m : PropertyMap) (key : String) (entries : List (String × String)) :
    (m.offerAll entries).erase key =
      (m.erase key).offerAll (entries.filter fun e ↦ e.1 != key) := by
  induction entries generalizing m with
  | nil => rfl
  | cons e rest ih =>
    rw [offerAll_cons, ih, List.filter_cons]
    by_cases hk : e.1 = key
    · simp [hk, erase_offer_self]
    · simp [hk, erase_offer_of_ne e.2 hk, offerAll_cons]

/-- The empty map has no values. -/
theorem get?_empty (key : String) : empty.get? key = none := rfl

/-- The value of a key is the one it had, or else the first offer for it that is not blank. -/
theorem get?_offerAll (m : PropertyMap) (entries : List (String × String)) (key : String) :
    (m.offerAll entries).get? key =
      (m.get? key <|> (entries.filter fun e ↦ !Text.isBlank e.2).lookup key) := by
  induction entries generalizing m with
  | nil => simp [offerAll_nil]
  | cons e rest ih =>
    obtain ⟨k, v⟩ := e
    rw [offerAll_cons, ih, get?_offer, List.filter_cons]
    cases hb : Text.isBlank v with
    | true => simp [accepts, hb]
    | false =>
      by_cases hk : key = k
      · subst hk
        have hc := m.get?_isSome_iff key
        cases hg : m.get? key with
        | some w =>
          rw [hg] at hc
          simp [accepts, hb, hc.mp rfl]
        | none =>
          have hn : m.contains key = false := by simpa [hg] using hc
          simp [accepts, hb, hn]
      · have hne : (key == k) = false := by simpa using hk
        simp [hk, hne, List.lookup_cons]

/-- The value of the key that is offered first is the one it had, or else the one offered. -/
theorem get?_offerAll_cons_self {m : PropertyMap} {key value : String}
    (entries : List (String × String)) (h : Text.isBlank value = false) :
    (m.offerAll ((key, value) :: entries)).get? key = some ((m.get? key).getD value) := by
  rw [get?_offerAll, List.filter_cons_of_pos (by simp [h]), List.lookup_cons_self]
  cases m.get? key with
  | none => rfl
  | some w => rfl

/-- What the empty map holds after offers was offered, and is not blank. -/
theorem mem_of_get?_offerAll {entries : List (String × String)} {key value : String}
    (h : (empty.offerAll entries).get? key = some value) :
    (key, value) ∈ entries ∧ Text.isBlank value = false := by
  rw [get?_offerAll, get?_empty] at h
  obtain ⟨before, after, hl, -⟩ := List.lookup_eq_some_iff.mp h
  have hm : (key, value) ∈ entries.filter fun e ↦ !Text.isBlank e.2 := by
    rw [hl]
    simp
  obtain ⟨he, hb⟩ := List.mem_filter.mp hm
  exact ⟨he, by simpa using hb⟩

end ConnectionConfig.PropertyMap
