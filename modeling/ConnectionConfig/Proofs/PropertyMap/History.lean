import ConnectionConfig.Proofs.PropertyMap.Order

/-!
# Histories of property maps

Whatever is done to a property map, from the empty one on, it stays a map in insertion order. Of
each operation it is told where the entries are afterwards, and of each key that its value is the
last one that was written since it was removed. A list of entries that is merely searched from the
front goes through the same states and gives the same answers, although nothing keeps a key from
standing in such a list twice.
-/

namespace ConnectionConfig.PropertyMap

/-- An operation on a property map; a new map and collected entries replace the old ones. -/
inductive Operation where
  | new
  | collect (entries : List (String × String))
  | insert (key value : String)
  | offer (key value : String)
  | erase (key : String)

/-- What an operation answers: whether an offer was taken, or the value that a key had before it was
removed. -/
inductive Answer where
  | done
  | offered (taken : Bool)
  | erased (value : Option String)

/-- The answer of an operation on a map, and the map after it. -/
def perform (m : PropertyMap) : Operation → Answer × PropertyMap
  | .new => (.done, empty)
  | .collect entries => (.done, ofList entries)
  | .insert key value => (.done, m.insert key value)
  | .offer key value => (.offered (m.accepts key value), m.offer key value)
  | .erase key => (.erased (m.get? key), m.erase key)

/-- The answers of operations that are performed one after the other, and the state after them. -/
def performAll {State : Type} (perform : State → Operation → Answer × State) (s : State) :
    List Operation → List Answer × State
  | [] => ([], s)
  | op :: rest =>
    let next := perform s op
    let last := performAll perform next.2 rest
    (next.1 :: last.1, last.2)

/-- States that are related step by step are related all the way, and give the same answers. -/
theorem performAll_map {State State' : Type} {perform : State → Operation → Answer × State}
    {perform' : State' → Operation → Answer × State'} {f : State → State'}
    (step : ∀ s op, perform' (f s) op = ((perform s op).1, f (perform s op).2)) (s : State)
    (history : List Operation) :
    performAll perform' (f s) history =
      ((performAll perform s history).1, f (performAll perform s history).2) := by
  induction history generalizing s with
  | nil => rfl
  | cons op rest ih => rw [performAll, performAll, step, ih]

/-- Write a value to the first entry of a key, or at the end if there is none. -/
def writeFirst (key value : String) : List (String × String) → List (String × String)
  | [] => [(key, value)]
  | e :: rest => if e.1 = key then (key, value) :: rest else e :: writeFirst key value rest

/-- Take the first entry of a key out of a list, and keep its value. -/
def takeFirst (key : String) : List (String × String) → Option String × List (String × String)
  | [] => (none, [])
  | e :: rest =>
    if e.1 = key then (some e.2, rest) else ((takeFirst key rest).1, e :: (takeFirst key rest).2)

/-- The answer of an operation on a list of entries that is searched from the front, and the list
after it. -/
def performOnList (entries : List (String × String)) :
    Operation → Answer × List (String × String)
  | .new => (.done, [])
  | .collect added => (.done, added.foldl (fun es e ↦ writeFirst e.1 e.2 es) [])
  | .insert key value => (.done, writeFirst key value entries)
  | .offer key value =>
    if Text.isBlank value || (entries.find? (·.1 == key)).isSome then (.offered false, entries)
    else (.offered true, entries ++ [(key, value)])
  | .erase key => (.erased (takeFirst key entries).1, (takeFirst key entries).2)

section Search

variable {key : String} {before : List (String × String)}

/-- A write passes by the entries of other keys. -/
theorem writeFirst_append (value : String) (h : ∀ e ∈ before, e.1 ≠ key)
    (rest : List (String × String)) :
    writeFirst key value (before ++ rest) = before ++ writeFirst key value rest := by
  induction before with
  | nil => rfl
  | cons e before ih =>
    rw [List.forall_mem_cons] at h
    rw [List.cons_append, writeFirst, if_neg h.1, ih h.2, List.cons_append]

/-- Taking an entry out passes by the entries of other keys. -/
theorem takeFirst_append (h : ∀ e ∈ before, e.1 ≠ key) (rest : List (String × String)) :
    takeFirst key (before ++ rest) =
      ((takeFirst key rest).1, before ++ (takeFirst key rest).2) := by
  induction before with
  | nil => rfl
  | cons e before ih =>
    rw [List.forall_mem_cons] at h
    rw [List.cons_append, takeFirst, if_neg h.1, ih h.2, List.cons_append]

/-- The first entry of a key is the only one, so that a search from the front writes to it. -/
theorem writeFirst_toList (m : PropertyMap) (key value : String) :
    writeFirst key value m.toList = (m.insert key value).toList := by
  cases hc : m.contains key with
  | true =>
    obtain ⟨before, old, after, heq⟩ := exists_toList_eq hc
    rw [toList_insert_of_toList_eq heq, heq, writeFirst_append value (ne_of_toList_eq heq).1,
      writeFirst, if_pos rfl]
  | false =>
    have happend := writeFirst_append value (contains_eq_false_iff.mp hc) []
    rw [List.append_nil] at happend
    rw [toList_insert_of_absent hc, happend, writeFirst]

/-- The first entry of a key is the only one, so that nothing of it is left when it is taken out. -/
theorem takeFirst_toList (m : PropertyMap) (key : String) :
    takeFirst key m.toList = (m.get? key, (m.erase key).toList) := by
  cases hc : m.contains key with
  | true =>
    obtain ⟨before, old, after, heq⟩ := exists_toList_eq hc
    rw [get?_of_toList_eq heq, toList_erase_of_toList_eq heq, heq,
      takeFirst_append (ne_of_toList_eq heq).1, takeFirst, if_pos rfl]
  | false =>
    have happend := takeFirst_append (contains_eq_false_iff.mp hc) []
    rw [List.append_nil] at happend
    rw [get?_eq_none hc, erase_of_absent hc, happend, takeFirst, List.append_nil]

/-- A search finds an entry exactly when the key has a value. -/
theorem isSome_find?_toList (m : PropertyMap) (key : String) :
    (m.toList.find? (·.1 == key)).isSome = m.contains key := by
  rw [Bool.eq_iff_iff, List.find?_isSome, contains_eq_true_iff]
  constructor
  · rintro ⟨e, he, hk⟩
    exact ⟨e.2, eq_of_beq hk ▸ he⟩
  · rintro ⟨value, hv⟩
    exact ⟨_, hv, beq_self_eq_true key⟩

/-- One operation on the entries of a map, searched from the front, is the operation on the map. -/
theorem performOnList_toList (m : PropertyMap) (op : Operation) :
    performOnList m.toList op = ((m.perform op).1, (m.perform op).2.toList) := by
  cases op with
  | new => rfl
  | collect entries =>
    have hwrites : entries.foldl (fun es e ↦ writeFirst e.1 e.2 es) empty.toList =
        (entries.foldl (fun m e ↦ m.insert e.1 e.2) empty).toList :=
      List.foldl_hom toList fun m e ↦ writeFirst_toList m e.1 e.2
    exact congrArg (Prod.mk Answer.done) hwrites
  | insert key value => exact congrArg (Prod.mk Answer.done) (writeFirst_toList m key value)
  | offer key value =>
    rw [performOnList, perform, isSome_find?_toList, toList_offer, accepts]
    cases Text.isBlank value <;> cases m.contains key <;> rfl
  | erase key => rw [performOnList, perform, takeFirst_toList]

end Search

/-- What an operation may do to a map, and what it answers then. A key that is collected has the
place of its first entry and the value of its last. A write changes a value in its place, or comes
last. An offer is taken, and comes last, if the key has no value and the offered one is not blank. A
key that is removed gives its value back and leaves no gap. -/
inductive Performs (m : PropertyMap) : Operation → Answer → PropertyMap → Prop
  | new {m' : PropertyMap} (entries : m'.toList = []) : Performs m .new .done m'
  | collect {added : List (String × String)} {m' : PropertyMap}
      (keys : m'.keys = (firstOfEach added).map Prod.fst)
      (values : ∀ key, m'.get? key = added.reverse.lookup key) :
      Performs m (.collect added) .done m'
  | overwrite {key old value : String} {before after : List (String × String)} {m' : PropertyMap}
      (present : m.toList = before ++ (key, old) :: after)
      (entries : m'.toList = before ++ (key, value) :: after) :
      Performs m (.insert key value) .done m'
  | append {key value : String} {m' : PropertyMap} (absent : m.get? key = none)
      (entries : m'.toList = m.toList ++ [(key, value)]) :
      Performs m (.insert key value) .done m'
  | take {key value : String} {m' : PropertyMap} (absent : m.get? key = none)
      (not_blank : Text.isBlank value = false)
      (entries : m'.toList = m.toList ++ [(key, value)]) :
      Performs m (.offer key value) (.offered true) m'
  | refuse {key value : String}
      (reason : (m.get? key).isSome = true ∨ Text.isBlank value = true) :
      Performs m (.offer key value) (.offered false) m
  | remove {key old : String} {before after : List (String × String)} {m' : PropertyMap}
      (present : m.toList = before ++ (key, old) :: after) (value : m.get? key = some old)
      (entries : m'.toList = before ++ after) :
      Performs m (.erase key) (.erased (some old)) m'
  | keep {key : String} (absent : m.get? key = none) : Performs m (.erase key) (.erased none) m

/-- An operation on a map does what it may do. -/
theorem performs_perform (m : PropertyMap) (op : Operation) :
    Performs m op (m.perform op).1 (m.perform op).2 := by
  cases op with
  | new => exact .new rfl
  | collect entries => exact .collect (keys_ofList entries) (get?_ofList entries)
  | insert key value =>
    cases hc : m.contains key with
    | true =>
      obtain ⟨before, old, after, heq⟩ := exists_toList_eq hc
      exact .overwrite heq (toList_insert_of_toList_eq heq value)
    | false => exact .append (get?_eq_none hc) (toList_insert_of_absent hc value)
  | offer key value =>
    cases ha : m.accepts key value with
    | true =>
      have hboth := ha
      rw [accepts, Bool.and_eq_true, Bool.not_eq_true', Bool.not_eq_true'] at hboth
      rw [perform, ha]
      exact .take (get?_eq_none hboth.2) hboth.1 (toList_offer_of_accepts ha)
    | false =>
      have hone := ha
      rw [accepts, Bool.and_eq_false_iff, Bool.not_eq_false', Bool.not_eq_false'] at hone
      rw [perform, ha, offer_of_not_accepts ha]
      exact .refuse (hone.symm.imp_left (m.get?_isSome_iff key).mpr)
  | erase key =>
    cases hc : m.contains key with
    | true =>
      obtain ⟨before, old, after, heq⟩ := exists_toList_eq hc
      rw [perform, get?_of_toList_eq heq]
      exact .remove heq (get?_of_toList_eq heq) (toList_erase_of_toList_eq heq)
    | false =>
      rw [perform, get?_eq_none hc, erase_of_absent hc]
      exact .keep (get?_eq_none hc)

/-- What an operation did to the value of a key, by its answer: nothing, or the value afterwards. -/
def effect? (key : String) : Operation × Answer → Option (Option String)
  | (.new, _) => some none
  | (.collect entries, _) => some (entries.reverse.lookup key)
  | (.insert k value, _) => if k = key then some (some value) else none
  | (.offer k value, .offered true) => if k = key then some (some value) else none
  | (.offer _ _, _) => none
  | (.erase k, _) => if k = key then some none else none

/-- After an operation the value of a key is the one that the operation left it with. -/
theorem get?_perform (m : PropertyMap) (op : Operation) (key : String) :
    (m.perform op).2.get? key = (effect? key (op, (m.perform op).1)).getD (m.get? key) := by
  cases op with
  | new => rfl
  | collect entries => exact get?_ofList entries key
  | insert k value =>
    rw [perform, get?_insert, effect?]
    by_cases hk : k = key
    · rw [if_pos hk, if_pos hk.symm, Option.getD_some]
    · rw [if_neg hk, if_neg (Ne.symm hk), Option.getD_none]
  | offer k value =>
    rw [perform, get?_offer]
    cases m.accepts k value with
    | true =>
      by_cases hk : k = key
      · simp [effect?, hk]
      · simp [effect?, hk, Ne.symm hk]
    | false => simp [effect?]
  | erase k =>
    rw [perform, get?_erase, effect?]
    by_cases hk : k = key
    · rw [if_pos hk, if_pos hk.symm, Option.getD_some]
    · rw [if_neg hk, if_neg (Ne.symm hk), Option.getD_none]

/-- After a history the value of a key is the one that the last operation on it left it with. -/
theorem get?_performAll (m : PropertyMap) (history : List Operation) (key : String) :
    (performAll perform m history).2.get? key =
      ((history.zip (performAll perform m history).1).filterMap (effect? key)).getLast?.getD
        (m.get? key) := by
  induction history generalizing m with
  | nil => rfl
  | cons op rest ih =>
    rw [performAll, ih, get?_perform, List.zip_cons_cons, List.filterMap_cons]
    cases effect? key (op, (m.perform op).1) with
    | none => rfl
    | some value => rw [Option.getD_some, List.getLast?_cons, Option.getD_some]

/-- A map that a history with its answers led to is a map in insertion order, and holds what the
history left of each key: the value that was written last since the key was last removed. A key that
is removed and written again comes last, and a list of entries that is searched from the front gives
the same answers and ends with the same entries. -/
structure IsInsertionOrdered (history : List Operation) (answers : List Answer)
    (m : PropertyMap) : Prop where
  nodup_keys : m.keys.Nodup
  get?_eq : ∀ key, m.get? key = ((history.zip answers).filterMap (effect? key)).getLast?.join
  size_eq : m.size = {key | (m.get? key).isSome}.ncard
  performs : ∀ op, Performs m op (m.perform op).1 (m.perform op).2
  insert_erase : ∀ key value,
    ((m.erase key).insert key value).toList = (m.erase key).toList ++ [(key, value)]
  searched : performAll performOnList [] history = (answers, m.toList)

/-- Whatever is done to the empty map one after the other, it stays a map in insertion order. -/
theorem isInsertionOrdered_performAll (history : List Operation) :
    IsInsertionOrdered history (performAll perform empty history).1
      (performAll perform empty history).2 where
  nodup_keys := nodup_keys _
  get?_eq key := by
    rw [get?_performAll, get?_empty]
    cases ((history.zip (performAll perform empty history).1).filterMap (effect? key)).getLast? <;>
      rfl
  size_eq := size_eq_ncard _
  performs := performs_perform _
  insert_erase key value := toList_insert_of_absent (contains_erase_self _ key) value
  searched := performAll_map (f := toList) performOnList_toList empty history

end ConnectionConfig.PropertyMap
