import Mathlib.Data.List.Basic
import ConnectionConfig.ConnectionString.Printer
import ConnectionConfig.ConnectionString.Reader
import ConnectionConfig.Proofs.Property.Canonical
import ConnectionConfig.Proofs.Uri.Escapes
import ConnectionConfig.Proofs.Uri.Hosts

/-!
# Options are read back

Printed options come from pairs of a key, which holds letters and digits only, and a value. The
marks between them are escaped in every value, so that the query gives the pairs back.
-/

namespace ConnectionConfig.ConnectionString

open Percent (isPlain)

/-- The option for a key and a value. -/
def optionText (pair : String × String) : List Char :=
  pair.1.toList ++ '=' :: Percent.encodeForm pair.2.toList

/-- The query with the options for some pairs. -/
def queryText (pairs : List (String × String)) : List Char :=
  ['&'].intercalate (pairs.map optionText)

/-- The keys and values of the entries that deviate from the defaults. -/
def deviations (m : PropertyMap) (entries : List SchemaEntry) : List (String × String) :=
  entries.filterMap fun e ↦ (deviation? m e).map fun value ↦ (e.name, value)

/-- A key holds letters and digits only. -/
def IsPlainKey (key : String) : Prop := ∀ c ∈ key.toList, c.isAlphanum = true

/-- What is picked for entries stands in their order, at most once for each. -/
theorem map_fst_filterMap_sublist (pick : SchemaEntry → Option String)
    (entries : List SchemaEntry) :
    ((entries.filterMap fun e ↦ (pick e).map fun value ↦ (e.name, value)).map Prod.fst).Sublist
      (entries.map SchemaEntry.name) := by
  induction entries with
  | nil => exact List.Sublist.refl _
  | cons e entries ih =>
    rw [List.filterMap_cons, List.map_cons]
    cases pick e with
    | none => exact ih.cons _
    | some value => exact ih.cons_cons _

private theorem filterMap_option? (m : PropertyMap) (entries : List SchemaEntry) :
    entries.filterMap (option? m) = (deviations m entries).map optionText := by
  rw [deviations, List.map_filterMap]
  apply List.filterMap_congr
  intro e _
  rw [option?, Option.map_map]
  rfl

/-- What is printed are the options for the deviations. -/
theorem printOptions_eq (m : PropertyMap) (entries : List SchemaEntry) :
    printOptions m entries =
      if deviations m entries = [] then [] else '?' :: queryText (deviations m entries) := by
  rw [printOptions, filterMap_option?, queryText]
  cases deviations m entries with
  | nil => rfl
  | cons pair pairs => rfl

/-- Whether a character can stand in a printed query. -/
def isQueryChar (c : Char) : Bool := isPlain c || c = '=' || c = '&'

/-- A way of escaping values: what is escaped is plain, and is read back as an option value. -/
structure EscapesValues (escape : List Char → List Char) : Prop where
  isPlain : ∀ cs, ∀ c ∈ escape cs, isPlain c = true
  decodeForm : ∀ cs, Percent.decodeForm (escape cs) = cs

/-- Values are escaped as they are in a form. -/
theorem escapesValues_encodeForm : EscapesValues Percent.encodeForm :=
  ⟨fun _ ↦ Percent.isPlain_of_mem_encodeForm, Percent.decodeForm_encodeForm⟩

/-- Values are escaped by any escapes that keep parts apart. -/
theorem escapesValues_encode {reserved : Char → Bool} (h : Percent.KeepsApart reserved) :
    EscapesValues (Percent.encode reserved) :=
  ⟨fun _ ↦ h.isPlain_of_mem_encode, fun _ ↦ h.decodeForm_encode⟩

/-- The option for a key and a value that is escaped in some way. -/
def escapedOption (escape : List Char → List Char) (pair : String × String) : List Char :=
  pair.1.toList ++ '=' :: escape pair.2.toList

/-- The query with the options for some pairs. -/
def escapedQuery (escape : List Char → List Char) (pairs : List (String × String)) : List Char :=
  ['&'].intercalate (pairs.map (escapedOption escape))

/-- The query with the options for some pairs; there is none without pairs. -/
def escapedQuery? (escape : List Char → List Char) (pairs : List (String × String)) :
    Option (List Char) :=
  if pairs = [] then none else some (escapedQuery escape pairs)

section Escaped

variable {escape : List Char → List Char} {pairs : List (String × String)}

private theorem isQueryChar_of_mem_escapedOption (hescape : EscapesValues escape)
    {pair : String × String} (h : IsPlainKey pair.1) :
    ∀ c ∈ escapedOption escape pair, isQueryChar c = true ∧ c ≠ '&' := by
  intro c hc
  have hplain : isPlain c = true → isQueryChar c = true ∧ c ≠ '&' := by
    intro hp
    refine ⟨by simp [isQueryChar, hp], ?_⟩
    rintro rfl
    exact absurd hp (by decide)
  rcases List.mem_append.mp hc with hk | hv
  · exact hplain (by rw [isPlain, h c hk, Bool.true_or])
  · rcases List.mem_cons.mp hv with rfl | hv
    · decide
    · exact hplain (hescape.isPlain _ c hv)

/-- A query holds letters and digits, escapes, and the marks between and in options. -/
theorem isQueryChar_of_mem_escapedQuery (hescape : EscapesValues escape)
    (h : ∀ pair ∈ pairs, IsPlainKey pair.1) :
    ∀ c ∈ escapedQuery escape pairs, isQueryChar c = true := by
  intro c hc
  rcases Text.mem_intercalate hc with rfl | ⟨part, hp, hc⟩
  · rfl
  · obtain ⟨pair, hpair, rfl⟩ := List.mem_map.mp hp
    exact (isQueryChar_of_mem_escapedOption hescape (h pair hpair) c hc).1

end Escaped

/-- A printed query holds letters and digits, escapes, and the marks between and in options. -/
theorem isQueryChar_of_mem_queryText {pairs : List (String × String)}
    (h : ∀ pair ∈ pairs, IsPlainKey pair.1) : ∀ c ∈ queryText pairs, isQueryChar c = true :=
  isQueryChar_of_mem_escapedQuery escapesValues_encodeForm h

private theorem forall_isQueryChar {p : Char → Prop}
    (h : ∀ n < 0x80, isQueryChar (Char.ofNat n) = true → p (Char.ofNat n)) {c : Char}
    (hc : isQueryChar c = true) : p c := by
  rcases Bool.or_eq_true_iff.mp hc with hc | hm
  · rcases Bool.or_eq_true_iff.mp hc with hp | hm
    · exact Percent.forall_isPlain (fun n hn hp ↦ h n hn (by simp [isQueryChar, hp])) hp
    · rw [of_decide_eq_true hm]
      exact h 0x3D (by decide) (by decide)
  · rw [of_decide_eq_true hm]
    exact h 0x26 (by decide) (by decide)

/-- A character of a printed query does not end it, and is neither ignored nor escaped. -/
theorem isQueryChar_spec {c : Char} (h : isQueryChar c = true) :
    0x20 < c.toNat ∧ c ≠ '#' ∧ Percent.inQuery c = false :=
  forall_isQueryChar (p := fun c ↦ 0x20 < c.toNat ∧ c ≠ '#' ∧ Percent.inQuery c = false)
    (by decide +kernel) h

/-- Nothing is escaped in a query of options. -/
theorem not_inQuery_of_mem_escapedQuery? {escape : List Char → List Char}
    {pairs : List (String × String)} (hescape : EscapesValues escape)
    (h : ∀ pair ∈ pairs, IsPlainKey pair.1) :
    ∀ q ∈ escapedQuery? escape pairs, ∀ c ∈ q, Percent.inQuery c = false := by
  intro q hq c hc
  rw [escapedQuery?] at hq
  split at hq
  · cases hq
  · cases hq
    exact (isQueryChar_spec (isQueryChar_of_mem_escapedQuery hescape h c hc)).2.2

private theorem encodeForm_eq_self {cs : List Char} (h : ∀ c ∈ cs, c.isAlphanum = true) :
    Percent.encodeForm cs = cs := by
  induction cs with
  | nil => rfl
  | cons c cs ih =>
    have hc := h c List.mem_cons_self
    have hs : c ≠ ' ' := by
      rintro rfl
      cases hc
    have he : Percent.encode Percent.inForm [c] = [c] :=
      Percent.encode_eq_self fun a ha ↦ by
        rw [List.mem_singleton.mp ha, Percent.inForm, hc]
        rfl
    rw [Percent.encodeForm, List.flatMap_cons, if_neg hs, he, ← Percent.encodeForm,
      ih fun a ha ↦ h a (List.mem_cons_of_mem _ ha)]
    rfl

/-- A key reads as itself. -/
theorem decodeForm_key {key : String} (h : IsPlainKey key) :
    Percent.decodeForm key.toList = key.toList := by
  have hk := Percent.decodeForm_encodeForm key.toList
  rwa [encodeForm_eq_self h] at hk

private theorem not_mem_key {key : String} (h : IsPlainKey key) : '=' ∉ key.toList :=
  fun hm ↦ absurd (h _ hm) (by decide)

section Escaped

variable {escape : List Char → List Char} {pairs : List (String × String)}

private theorem mapM_readOption (h : ∀ pair ∈ pairs, IsPlainKey pair.1) :
    (pairs.map (escapedOption escape)).mapM readOption =
      .ok (pairs.map fun pair ↦ (pair.1.toList, escape pair.2.toList)) := by
  induction pairs with
  | nil => rfl
  | cons pair pairs ih =>
    have hpair : readOption (escapedOption escape pair) =
        .ok (pair.1.toList, escape pair.2.toList) := by
      rw [readOption, escapedOption,
        Text.cutFirst?_append_cons _ (not_mem_key (h pair List.mem_cons_self))]
    rw [List.map_cons, List.mapM_cons, hpair, ih fun p hp ↦ h p (List.mem_cons_of_mem _ hp)]
    rfl

private theorem splitOn_escapedQuery (hescape : EscapesValues escape)
    (h : ∀ pair ∈ pairs, IsPlainKey pair.1) :
    ((escapedQuery escape pairs).splitOn '&').filter (fun option ↦ !option.isEmpty) =
      pairs.map (escapedOption escape) := by
  cases pairs with
  | nil => rfl
  | cons pair pairs =>
    rw [escapedQuery, List.splitOn_intercalate '&', List.filter_eq_self]
    · intro option ho
      obtain ⟨p, -, rfl⟩ := List.mem_map.mp ho
      simp [escapedOption]
    · intro option ho hm
      obtain ⟨p, hp, rfl⟩ := List.mem_map.mp ho
      exact (isQueryChar_of_mem_escapedOption hescape (h p hp) _ hm).2 rfl
    · simp

/-- A query of options reads back as the pairs with supported keys. -/
theorem readQuery_escapedQuery (schema : Schema) (hescape : EscapesValues escape)
    (h : ∀ pair ∈ pairs, IsPlainKey pair.1) :
    readQuery schema (escapedQuery escape pairs) =
      .ok (pairs.filter fun pair ↦ schema.supports pair.1) := by
  have hdecode : ∀ pair ∈ pairs, (String.ofList (Percent.decodeForm pair.1.toList),
      String.ofList (Percent.decodeForm (escape pair.2.toList))) = pair := by
    intro pair hp
    rw [decodeForm_key (h pair hp), hescape.decodeForm, String.ofList_toList,
      String.ofList_toList]
  rw [readQuery, splitOn_escapedQuery hescape h, mapM_readOption h]
  show Except.ok _ = _
  rw [List.map_map]
  exact congrArg (fun found ↦ Except.ok (found.filter fun pair ↦ schema.supports pair.1))
    ((List.map_congr_left (g := id) hdecode).trans (List.map_id pairs))

/-- Options read back as the pairs with supported keys, also without a query. -/
theorem readQuery_escapedQuery? (schema : Schema) (hescape : EscapesValues escape)
    (h : ∀ pair ∈ pairs, IsPlainKey pair.1) :
    readQuery schema ((escapedQuery? escape pairs).getD []) =
      .ok (pairs.filter fun pair ↦ schema.supports pair.1) := by
  rw [escapedQuery?]
  split
  · next hp =>
    rw [hp]
    rfl
  · exact readQuery_escapedQuery schema hescape h

end Escaped

private theorem deviations_cons (m : PropertyMap) (e : SchemaEntry) (entries : List SchemaEntry) :
    deviations m (e :: entries) =
      ((deviation? m e).map fun value ↦ (e.name, value)).toList ++ deviations m entries := by
  rw [deviations, List.filterMap_cons]
  cases deviation? m e <;> rfl

/-- Other keys have no value among the deviations. -/
theorem lookup_deviations_eq_none (m : PropertyMap) {entries : List SchemaEntry} {key : String}
    (h : ∀ e ∈ entries, e.name ≠ key) : (deviations m entries).lookup key = none := by
  induction entries with
  | nil => rfl
  | cons e entries ih =>
    rw [deviations_cons]
    have hrest := ih fun e he ↦ h e (List.mem_cons_of_mem _ he)
    cases deviation? m e with
    | none => exact hrest
    | some value =>
      have hne : (key == e.name) = false := by
        simpa using (h e List.mem_cons_self).symm
      simpa [List.lookup_cons, hne] using hrest

/-- The value of a key among the deviations is the deviation of its entry. -/
theorem lookup_deviations (m : PropertyMap) {entries : List SchemaEntry}
    (hn : (entries.map SchemaEntry.name).Nodup) {entry : SchemaEntry} (he : entry ∈ entries) :
    (deviations m entries).lookup entry.name = deviation? m entry := by
  induction entries with
  | nil => cases he
  | cons e entries ih =>
    rw [List.map_cons, List.nodup_cons] at hn
    rw [deviations_cons]
    rcases List.mem_cons.mp he with rfl | he
    · have hrest : (deviations m entries).lookup entry.name = none :=
        lookup_deviations_eq_none m fun e he hk ↦ hn.1 (hk ▸ List.mem_map_of_mem he)
      cases hd : deviation? m entry with
      | none => exact hrest
      | some value => simp
    · have hne : (entry.name == e.name) = false := by
        simp only [beq_eq_false_iff_ne, ne_eq]
        exact fun hk ↦ hn.1 (hk ▸ List.mem_map_of_mem he)
      rw [← ih hn.2 he]
      cases deviation? m e with
      | none => rfl
      | some value => simp [List.lookup_cons, hne]

/-- A deviation is a canonical value. -/
theorem canonical?_of_deviation? {m : PropertyMap} {e : SchemaEntry} {value : String}
    (h : deviation? m e = some value) : e.type.canonical? value = some value := by
  obtain ⟨hc, -⟩ := Option.filter_eq_some_iff.mp h
  obtain ⟨raw, -, hr⟩ := Option.bind_eq_some_iff.mp hc
  exact ValueType.canonical?_self hr

/-- The deviations are not blank. -/
theorem isBlank_of_mem_deviations {m : PropertyMap} {entries : List SchemaEntry} :
    ∀ pair ∈ deviations m entries, Text.isBlank pair.2 = false := by
  intro pair hp
  obtain ⟨e, -, he⟩ := List.mem_filterMap.mp hp
  obtain ⟨value, hv, rfl⟩ := Option.map_eq_some_iff.mp he
  exact ValueType.isBlank_of_canonical? (canonical?_of_deviation? hv)

/-- A map that holds the deviation of an entry deviates in the same way. -/
theorem deviation?_of_get? {a b : PropertyMap} {e : SchemaEntry}
    (h : b.get? e.name = deviation? a e) : deviation? b e = deviation? a e := by
  rw [deviation?, h]
  cases hd : deviation? a e with
  | none => rfl
  | some value =>
    have hf := (Option.filter_eq_some_iff.mp hd).2
    rw [Option.bind_some, canonical?_of_deviation? hd, Option.filter_some, if_pos hf]

end ConnectionConfig.ConnectionString
