import Mathlib.Data.Set.Card
import ConnectionConfig.Proofs.PropertyMap.Offers

/-!
# The order of the entries

The entries of a property map stand in the order in which their keys came in. A write to a key that
is there changes its value and no place, a removal closes the gap, and what is new comes last. Of
several writes into an empty map each key keeps the place of the first and the value of the last.
-/

namespace ConnectionConfig.PropertyMap

variable {m : PropertyMap} {key old : String} {before after : List (String × String)}

/-- A key has no value exactly when no entry has this key. -/
theorem contains_eq_false_iff : m.contains key = false ↔ ∀ e ∈ m.toList, e.1 ≠ key := by
  rw [← Bool.not_eq_true, contains_eq_true_iff, not_exists]
  exact ⟨fun h e he hk ↦ h e.2 (hk ▸ he), fun h value hv ↦ h _ hv rfl⟩

/-- A key with a value stands somewhere. -/
theorem exists_toList_eq (h : m.contains key = true) :
    ∃ before old after, m.toList = before ++ (key, old) :: after := by
  obtain ⟨old, hold⟩ := contains_eq_true_iff.mp h
  obtain ⟨before, after, heq⟩ := List.append_of_mem hold
  exact ⟨before, old, after, heq⟩

/-- A key stands in one place only. -/
theorem ne_of_toList_eq (h : m.toList = before ++ (key, old) :: after) :
    (∀ e ∈ before, e.1 ≠ key) ∧ ∀ e ∈ after, e.1 ≠ key := by
  have hnodup := m.nodup_keys
  rw [show m.entries = _ from h, List.map_append, List.map_cons, List.nodup_append,
    List.nodup_cons] at hnodup
  obtain ⟨-, ⟨hafter, -⟩, hbefore⟩ := hnodup
  exact ⟨fun e he ↦ hbefore e.1 (List.mem_map_of_mem he) key List.mem_cons_self,
    fun e he hk ↦ hafter (List.mem_map.mpr ⟨e, he, hk⟩)⟩

/-- What stands with a key is its value. -/
theorem get?_of_toList_eq (h : m.toList = before ++ (key, old) :: after) :
    m.get? key = some old :=
  get?_eq_some_iff.mpr (by simp [h])

/-- There are as many entries as keys that have a value. -/
theorem size_eq_ncard (m : PropertyMap) : m.size = {key | (m.get? key).isSome}.ncard := by
  have hkeys : {key | (m.get? key).isSome} = (m.keys.toFinset : Set String) := by
    ext key
    simp [get?_isSome_iff, contains]
  have hnodup : m.keys.Nodup := m.nodup_keys
  rw [hkeys, Set.ncard_coe_finset, List.toFinset_card_of_nodup hnodup, keys, List.length_map, size]

/-- A write to a key that has a value leaves everything in its place. -/
theorem toList_insert_of_toList_eq (h : m.toList = before ++ (key, old) :: after)
    (value : String) : (m.insert key value).toList = before ++ (key, value) :: after := by
  have hcontains : m.contains key = true := contains_eq_true_iff.mpr ⟨old, by simp [h]⟩
  obtain ⟨hbefore, hafter⟩ := ne_of_toList_eq h
  have hkeep : ∀ {es : List (String × String)}, (∀ e ∈ es, e.1 ≠ key) →
      es.map (fun e ↦ if e.1 = key then (e.1, value) else e) = es := by
    intro es hne
    conv_rhs => rw [← List.map_id es]
    exact List.map_congr_left fun e he ↦ if_neg (hne e he)
  have hset : (m.insert key value).toList =
      m.toList.map fun e ↦ if e.1 = key then (e.1, value) else e := by
    rw [insert, dif_pos hcontains, toList, toList]
  rw [hset, h, List.map_append, List.map_cons, if_pos rfl, hkeep hbefore, hkeep hafter]

/-- A write to a new key comes last. -/
theorem toList_insert_of_absent (h : m.contains key = false) (value : String) :
    (m.insert key value).toList = m.toList ++ [(key, value)] := by
  rw [insert, dif_neg (by simp [h]), toList, toList]

/-- A removal closes the gap. -/
theorem toList_erase_of_toList_eq (h : m.toList = before ++ (key, old) :: after) :
    (m.erase key).toList = before ++ after := by
  obtain ⟨hbefore, hafter⟩ := ne_of_toList_eq h
  have hkeep : ∀ {es : List (String × String)}, (∀ e ∈ es, e.1 ≠ key) →
      es.filter (fun e ↦ e.1 != key) = es :=
    fun hne ↦ List.filter_eq_self.mpr fun e he ↦ bne_iff_ne.mpr (hne e he)
  rw [toList_erase, h, List.filter_append, List.filter_cons_of_neg (by simp), hkeep hbefore,
    hkeep hafter]

/-- There is nothing to remove of a key without a value. -/
theorem erase_of_absent (h : m.contains key = false) : m.erase key = m := by
  rw [← toList_inj, toList_erase, List.filter_eq_self]
  exact fun e he ↦ bne_iff_ne.mpr (contains_eq_false_iff.mp h e he)

/-- A removed key has no value. -/
theorem contains_erase_self (m : PropertyMap) (key : String) :
    (m.erase key).contains key = false := by
  rw [contains_eq_false_iff, toList_erase]
  exact fun e he ↦ bne_iff_ne.mp (List.mem_filter.mp he).2

/-- After a write its key has a value, and so have those that had one. -/
theorem contains_insert (m : PropertyMap) (key value other : String) :
    (m.insert key value).contains other = (other == key || m.contains other) := by
  rw [Bool.eq_iff_iff, Bool.or_eq_true, beq_iff_eq, ← get?_isSome_iff, ← get?_isSome_iff,
    get?_insert]
  split <;> simp [*]

/-- A write adds its key at the end unless it is there. -/
theorem keys_insert (m : PropertyMap) (key value : String) :
    (m.insert key value).keys = if m.contains key then m.keys else m.keys ++ [key] := by
  cases hc : m.contains key with
  | true =>
    obtain ⟨before, old, after, heq⟩ := exists_toList_eq hc
    have hset := toList_insert_of_toList_eq heq value
    rw [keys, show (m.insert key value).entries = _ from hset, keys,
      show m.entries = _ from heq]
    simp
  | false =>
    have hset := toList_insert_of_absent hc value
    rw [keys, show (m.insert key value).entries = _ from hset, keys]
    simp [toList]

/-- Several writes add their keys that are new, in the order in which they first occur. -/
theorem keys_foldl_insert (m : PropertyMap) (entries : List (String × String)) :
    (entries.foldl (fun m e ↦ m.insert e.1 e.2) m).keys =
      m.keys ++ ((firstOfEach entries).map Prod.fst).filter fun key ↦ !m.contains key := by
  induction entries generalizing m with
  | nil => simp [firstOfEach]
  | cons e rest ih =>
    have hdrop : (((firstOfEach rest).filter fun f ↦ f.1 != e.1).map Prod.fst).filter
        (fun key ↦ !m.contains key) =
        ((firstOfEach rest).map Prod.fst).filter fun key ↦ !(key == e.1 || m.contains key) := by
      simp [List.filter_map, List.filter_filter, Function.comp_def, Bool.and_comm, bne]
    rw [List.foldl_cons, ih, keys_insert, firstOfEach, List.map_cons]
    simp only [contains_insert]
    cases hc : m.contains e.1 with
    | true => rw [if_pos rfl, List.filter_cons_of_neg (by simp [hc]), hdrop]
    | false =>
      rw [if_neg Bool.false_ne_true, List.filter_cons_of_pos (by simp [hc]), hdrop,
        List.append_assoc, List.singleton_append]

/-- Of several writes a key has the value of the last. -/
theorem get?_foldl_insert (m : PropertyMap) (entries : List (String × String)) (key : String) :
    (entries.foldl (fun m e ↦ m.insert e.1 e.2) m).get? key =
      (entries.reverse.lookup key <|> m.get? key) := by
  induction entries generalizing m with
  | nil => rfl
  | cons e rest ih =>
    obtain ⟨k, v⟩ := e
    rw [List.foldl_cons, ih, get?_insert, List.reverse_cons, List.lookup_append]
    by_cases hk : key = k
    · cases rest.reverse.lookup key <;> simp [hk]
    · have hne : (key == k) = false := beq_false_of_ne hk
      cases rest.reverse.lookup key <;> simp [hk, List.lookup_cons, hne]

/-- The keys of a list of entries are in the order in which they first occur. -/
theorem keys_ofList (entries : List (String × String)) :
    (ofList entries).keys = (firstOfEach entries).map Prod.fst := by
  have hnone : ∀ key, empty.contains key = false := fun _ ↦ rfl
  rw [ofList, keys_foldl_insert]
  simp only [hnone, Bool.not_false, List.filter_true]
  exact List.nil_append _

/-- A key of a list of entries has the value of its last entry. -/
theorem get?_ofList (entries : List (String × String)) (key : String) :
    (ofList entries).get? key = entries.reverse.lookup key := by
  rw [ofList, get?_foldl_insert, get?_empty]
  simp

end ConnectionConfig.PropertyMap
