import ConnectionConfig.Text.Blank

/-!
# Property maps

A property map holds text values under distinct text keys, in the order in which the keys came in.
Keys differ when their letters differ in case. There are two ways in: `insert` writes a value
whatever was there, and `offer` takes a value only if it is not blank and its key is new, so that
of several sources the first with something to say wins.
-/

namespace ConnectionConfig

/-- A map from keys to values in insertion order, in which each key occurs once. -/
structure PropertyMap where
  entries : List (String × String)
  nodup_keys : (entries.map Prod.fst).Nodup
  deriving DecidableEq

namespace PropertyMap

/-- The map without entries. -/
def empty : PropertyMap := ⟨[], List.nodup_nil⟩

/-- The keys with their values, in insertion order. -/
def toList (m : PropertyMap) : List (String × String) := m.entries

/-- The keys, in insertion order. -/
def keys (m : PropertyMap) : List String := m.entries.map Prod.fst

/-- The number of keys. -/
def size (m : PropertyMap) : Nat := m.entries.length

/-- Whether there are no keys. -/
def isEmpty (m : PropertyMap) : Bool := m.entries.isEmpty

/-- The value of a key. -/
def get? (m : PropertyMap) (key : String) : Option String := m.entries.lookup key

/-- Whether a key has a value. -/
def contains (m : PropertyMap) (key : String) : Bool := m.keys.contains key

/-- The value of a key, unless it is blank. -/
def getNonBlank? (m : PropertyMap) (key : String) : Option String :=
  (m.get? key).filter fun value ↦ !Text.isBlank value

private theorem nodup_append_entry {m : PropertyMap} {key : String} (value : String)
    (h : ¬ m.contains key = true) : ((m.entries ++ [(key, value)]).map Prod.fst).Nodup := by
  rw [List.map_append, List.nodup_append]
  refine ⟨m.nodup_keys, by simp, ?_⟩
  intro a ha b hb hab
  apply h
  simp only [List.map_cons, List.map_nil, List.mem_singleton] at hb
  simp only [contains, keys, List.contains_iff_mem]
  rwa [← hb, ← hab]

private theorem map_fst_replace (entries : List (String × String)) (key value : String) :
    (entries.map fun e ↦ if e.1 = key then (e.1, value) else e).map Prod.fst =
      entries.map Prod.fst := by
  rw [List.map_map]
  apply List.map_congr_left
  intro e _
  simp only [Function.comp_apply]
  split <;> rfl

/-- Write a value: in place if the key is there, at the end otherwise. -/
def insert (m : PropertyMap) (key value : String) : PropertyMap :=
  if h : m.contains key = true then
    ⟨m.entries.map fun e ↦ if e.1 = key then (e.1, value) else e, by
      rw [map_fst_replace]; exact m.nodup_keys⟩
  else ⟨m.entries ++ [(key, value)], nodup_append_entry value h⟩

/-- Whether an offered value is taken: it is not blank and its key is new. -/
def accepts (m : PropertyMap) (key value : String) : Bool :=
  !Text.isBlank value && !m.contains key

/-- Take a value at the end if it is not blank and its key is new. -/
def offer (m : PropertyMap) (key value : String) : PropertyMap :=
  if h : m.accepts key value = true then
    ⟨m.entries ++ [(key, value)], nodup_append_entry value (by
      simp only [accepts, Bool.and_eq_true, Bool.not_eq_true'] at h
      simp [h.2])⟩
  else m

/-- Offer entries one after the other. -/
def offerAll (m : PropertyMap) (entries : List (String × String)) : PropertyMap :=
  entries.foldl (fun m e ↦ m.offer e.1 e.2) m

/-- Remove a key; the other entries keep their order. -/
def erase (m : PropertyMap) (key : String) : PropertyMap :=
  ⟨m.entries.filter fun e ↦ e.1 != key,
    m.nodup_keys.sublist (List.filter_sublist.map Prod.fst)⟩

/-- Write entries one after the other into an empty map: a repeated key keeps its first place and
takes its last value. -/
def ofList (entries : List (String × String)) : PropertyMap :=
  entries.foldl (fun m e ↦ m.insert e.1 e.2) empty

/-- A key has a value exactly when it is among the keys. -/
theorem get?_isSome_iff (m : PropertyMap) (key : String) :
    (m.get? key).isSome = true ↔ m.contains key = true := by
  unfold get? contains keys
  induction m.entries with
  | nil => simp
  | cons e r ih =>
    obtain ⟨k, v⟩ := e
    rw [List.lookup_cons]
    by_cases h : key = k
    · simp [h]
    · have hk : (key == k) = false := by simpa using h
      simp [hk, h, ih]

/-- Maps with the same entries in the same order are equal. -/
theorem ext_entries {a b : PropertyMap} (h : a.entries = b.entries) : a = b := by
  cases a
  cases b
  cases h
  rfl

/-- A taken value stands at the end. -/
theorem toList_offer_of_accepts {m : PropertyMap} {key value : String}
    (h : m.accepts key value = true) : (m.offer key value).toList = m.toList ++ [(key, value)] := by
  simp [offer, h, toList]

/-- A value that is not taken changes nothing. -/
theorem offer_of_not_accepts {m : PropertyMap} {key value : String}
    (h : m.accepts key value = false) : m.offer key value = m := by
  simp [offer, h]

/-- Removing a key leaves the entries of the other keys. -/
theorem toList_erase (m : PropertyMap) (key : String) :
    (m.erase key).toList = m.toList.filter fun e ↦ e.1 != key := rfl

private theorem lookup_append_entry {entries : List (String × String)} {key value : String}
    (h : entries.lookup key = none) (k : String) :
    (entries ++ [(key, value)]).lookup k =
      if k = key then some value else entries.lookup k := by
  induction entries with
  | nil =>
    by_cases hk : k = key
    · simp [hk]
    · have hb : (k == key) = false := by simpa using hk
      simp [List.lookup_cons, hb, hk]
  | cons e r ih =>
    obtain ⟨a, v⟩ := e
    rw [List.lookup_cons] at h
    split at h
    · cases h
    · next ha =>
      rw [List.cons_append, List.lookup_cons, List.lookup_cons, ih h]
      by_cases hk : k = key
      · subst hk
        simp [ha]
      · simp [hk]

private theorem lookup_replace (entries : List (String × String)) (key value k : String) :
    (entries.map fun e ↦ if e.1 = key then (e.1, value) else e).lookup k =
      if k = key then (entries.lookup k).map fun _ ↦ value else entries.lookup k := by
  induction entries with
  | nil => simp
  | cons e r ih =>
    obtain ⟨a, v⟩ := e
    rw [List.map_cons, List.lookup_cons, List.lookup_cons, ih]
    by_cases hka : k = a
    · subst hka
      by_cases hk : k = key <;> simp [hk]
    · have hb : (k == a) = false := by simpa using hka
      have hf : (if a = key then (a, value) else (a, v)).1 = a := by split <;> rfl
      simp only [hf, hb]

/-- A key that is not there has no value. -/
theorem get?_eq_none {m : PropertyMap} {key : String} (h : m.contains key = false) :
    m.get? key = none := by
  cases hg : m.get? key with
  | none => rfl
  | some v =>
    have hc := (m.get?_isSome_iff key).1 (by simp [hg])
    rw [h] at hc
    cases hc

/-- A written value is what its key has; the other keys keep theirs. -/
theorem get?_insert (m : PropertyMap) (key value k : String) :
    (m.insert key value).get? k = if k = key then some value else m.get? k := by
  unfold insert
  split
  · next h =>
    unfold get?
    rw [lookup_replace]
    split
    · next hk =>
      obtain ⟨v, hv⟩ := Option.isSome_iff_exists.1 ((m.get?_isSome_iff key).2 h)
      rw [hk]
      unfold get? at hv
      simp [hv]
    · rfl
  · next h => exact lookup_append_entry (get?_eq_none (by simpa using h)) k

/-- A taken value is what its key has; the other keys keep theirs. -/
theorem get?_offer (m : PropertyMap) (key value k : String) :
    (m.offer key value).get? k =
      if k = key ∧ m.accepts key value = true then some value else m.get? k := by
  cases h : m.accepts key value with
  | false => simp [offer_of_not_accepts h]
  | true =>
    have hn : m.contains key = false := by
      simp only [accepts, Bool.and_eq_true, Bool.not_eq_true'] at h
      exact h.2
    have he : (m.offer key value).entries = m.entries ++ [(key, value)] :=
      toList_offer_of_accepts h
    rw [get?, he, lookup_append_entry (get?_eq_none hn)]
    simp [get?]

private theorem lookup_filter_ne (entries : List (String × String)) (key k : String) :
    (entries.filter fun e ↦ e.1 != key).lookup k =
      if k = key then none else entries.lookup k := by
  induction entries with
  | nil => simp
  | cons e r ih =>
    obtain ⟨a, v⟩ := e
    rw [List.filter_cons, List.lookup_cons]
    by_cases ha : a = key
    · subst ha
      by_cases hk : k = a
      · subst hk
        simpa using ih
      · have hb : (k == a) = false := by simpa using hk
        simpa [hb, hk] using ih
    · have hne : (a != key) = true := by simpa using ha
      simp only [hne, if_true]
      rw [List.lookup_cons, ih]
      by_cases hk : k = a
      · subst hk
        simp [ha]
      · have hb : (k == a) = false := by simpa using hk
        simp [hb]

/-- A removed key has no value; the other keys keep theirs. -/
theorem get?_erase (m : PropertyMap) (key k : String) :
    (m.erase key).get? k = if k = key then none else m.get? k :=
  lookup_filter_ne m.entries key k

end PropertyMap

end ConnectionConfig
