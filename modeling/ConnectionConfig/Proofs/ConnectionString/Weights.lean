import Mathlib.Algebra.Order.BigOperators.Group.List
import Mathlib.Algebra.Order.Group.Nat
import Mathlib.Data.List.Perm.Subperm
import ConnectionConfig.Proofs.ConnectionString.PublicForm
import ConnectionConfig.Proofs.Uri.Lengths

/-!
# What fits into a query

What is read from a query is no longer than the query, and what is read from a path is no longer
than the path. Each option counts with its key, its value and the two marks that belong to it.
-/

namespace ConnectionConfig.ConnectionString

open Percent (readLength formLength IsMark encode)

/-- The length of options: keys, values, and two marks for each. -/
def weight (pairs : List (String × String)) : Nat :=
  (pairs.map fun e ↦ e.1.toList.length + e.2.toList.length + 2).sum

/-- Different options among others weigh no more than all of them. -/
theorem weight_le_of_subset {a b : List (String × String)} (hn : a.Nodup) (hs : a ⊆ b) :
    weight a ≤ weight b := by
  obtain ⟨c, hperm, hsub⟩ := hn.subperm hs
  have hle : weight c ≤ weight b := (hsub.map _).sum_le_sum fun _ _ ↦ Nat.zero_le _
  have heq : weight c = weight a := (hperm.map _).sum_eq
  omega

private theorem weight_filter_le (pairs : List (String × String)) (p : String × String → Bool) :
    weight (pairs.filter p) ≤ weight pairs :=
  (List.filter_sublist.map _).sum_le_sum fun _ _ ↦ Nat.zero_le _

/-- The raw values of entries. -/
def rawOptions (m : PropertyMap) (entries : List SchemaEntry) : List (String × String) :=
  entries.filterMap fun e ↦ (m.get? e.name).map fun raw ↦ (e.name, raw)

private theorem weight_cons (pair : String × String) (pairs : List (String × String)) :
    weight (pair :: pairs) = pair.1.toList.length + pair.2.toList.length + 2 + weight pairs := by
  rw [weight, List.map_cons, List.sum_cons, weight]

/-- An entry with a value has the first of the raw values. -/
theorem weight_rawOptions_cons {m : PropertyMap} {e : SchemaEntry} {raw : String}
    (h : m.get? e.name = some raw) (entries : List SchemaEntry) :
    weight (rawOptions m (e :: entries)) =
      e.name.toList.length + raw.toList.length + 2 + weight (rawOptions m entries) := by
  rw [rawOptions, List.filterMap_cons, h, Option.map_some, weight_cons, rawOptions]

/-- Deviations weigh no more than the raw values they come from. -/
theorem weight_deviations_le (m : PropertyMap) (entries : List SchemaEntry) :
    weight (deviations m entries) ≤ weight (rawOptions m entries) := by
  induction entries with
  | nil => exact Nat.le_refl _
  | cons e entries ih =>
    rw [deviations, List.filterMap_cons, ← deviations]
    cases hg : m.get? e.name with
    | none =>
      have hd : deviation? m e = none := by rw [deviation?, hg]; rfl
      rw [rawOptions, List.filterMap_cons, hg, hd]
      exact ih
    | some raw =>
      rw [weight_rawOptions_cons hg]
      cases hd : deviation? m e with
      | none =>
        rw [Option.map_none]
        dsimp only
        omega
      | some value =>
        have hle : value.toList.length ≤ raw.toList.length := by
          rw [deviation?, hg, Option.bind_some] at hd
          exact ValueType.length_canonical?_le (Option.filter_eq_some_iff.mp hd).1
        rw [Option.map_some]
        dsimp only
        rw [weight_cons]
        dsimp only
        omega

/-- Raw values among options weigh no more than all of them. -/
theorem weight_rawOptions_le {m : PropertyMap} {entries : List SchemaEntry}
    {pairs : List (String × String)} (hn : (entries.map SchemaEntry.name).Nodup)
    (h : ∀ e ∈ entries, ∀ raw, m.get? e.name = some raw → (e.name, raw) ∈ pairs) :
    weight (rawOptions m entries) ≤ weight pairs := by
  apply weight_le_of_subset
  · exact (hn.sublist (map_fst_filterMap_sublist _ entries)).of_map _
  · intro pair hp
    obtain ⟨e, he, hr⟩ := List.mem_filterMap.mp hp
    obtain ⟨raw, hg, rfl⟩ := Option.map_eq_some_iff.mp hr
    exact h e he raw hg

private theorem isMark_ampersand : IsMark '&' := by decide

private theorem isMark_equals : IsMark '=' := by decide

private theorem formLength_readOption {option key value : List Char}
    (h : readOption option = .ok (key, value)) :
    formLength option = formLength key + formLength value + 1 := by
  rw [readOption] at h
  split at h
  · next pair hc =>
    cases h
    obtain ⟨rfl, -⟩ := Text.eq_append_of_cutFirst? hc
    exact Percent.formLength_append_cons key isMark_equals (by decide) value
  · cases h

/-- The text of a key and a value. -/
private def decoded (pair : List Char × List Char) : String × String :=
  (String.ofList (Percent.decodeForm pair.1), String.ofList (Percent.decodeForm pair.2))

private theorem weight_of_forall₂_readOption {parts : List (List Char)}
    {pairs : List (List Char × List Char)}
    (h : List.Forall₂ (fun part pair ↦ readOption part = .ok pair) parts pairs) :
    weight (pairs.map decoded) = (parts.map fun part ↦ formLength part + 1).sum := by
  induction h with
  | nil => rfl
  | cons hpart _ ih =>
    have hlen := formLength_readOption hpart
    rw [weight] at ih ⊢
    rw [List.map_cons, List.map_cons, List.sum_cons, ih, List.map_cons, List.sum_cons, hlen,
      decoded, String.toList_ofList, String.toList_ofList, ← formLength, ← formLength]

/-- Options weigh no more than the query they are read from. -/
theorem weight_readQuery_le {schema : Schema} {query : List Char} {pairs : List (String × String)}
    (h : readQuery schema query = .ok pairs) : weight pairs ≤ formLength query + 1 := by
  let parts := (query.splitOn '&').filter fun option ↦ !option.isEmpty
  have hparts : (parts.map fun part ↦ formLength part + 1).sum ≤
      ((query.splitOn '&').map fun part ↦ formLength part + 1).sum :=
    (List.filter_sublist.map _).sum_le_sum fun _ _ ↦ Nat.zero_le _
  have hquery := Percent.count_intercalate (fun a b ↦
    Percent.formLength_append_cons a isMark_ampersand (by decide) b) (List.splitOn_ne_nil '&' query)
  rw [List.intercalate_splitOn] at hquery
  rw [readQuery] at h
  cases hm : parts.mapM readOption with
  | error e =>
    rw [hm] at h
    cases h
  | ok found =>
    rw [hm] at h
    cases h
    have hweight := weight_of_forall₂_readOption (mapM_eq_ok_iff.mp hm)
    have hfilter := weight_filter_le (found.map decoded) fun e ↦ schema.supports e.1
    exact Nat.le_trans hfilter (by omega)

private theorem isMark_slash : IsMark '/' := by decide

private theorem readLength_slash (a b : List Char) :
    readLength (a ++ '/' :: b) = readLength a + readLength b + 1 :=
  Percent.readLength_append_cons a isMark_slash b

/-- The length of levels or segments, with a slash for each. -/
private def pathLength (levels : List (List Char)) : Nat :=
  (levels.map fun level ↦ readLength level + 1).sum

private theorem pathLength_cons (level : List Char) (levels : List (List Char)) :
    pathLength (level :: levels) = readLength level + 1 + pathLength levels := by
  rw [pathLength, List.map_cons, List.sum_cons, pathLength]

private theorem pathLength_parent_le (levels : List (List Char)) :
    pathLength (Uri.parent levels) ≤ pathLength levels := by
  cases levels with
  | nil => exact Nat.le_refl _
  | cons level levels =>
    rw [Uri.parent]
    split
    · exact Nat.le_refl _
    · rw [pathLength_cons]
      omega

private theorem pathLength_resolveSegments_le (levels segments : List (List Char)) :
    pathLength (Uri.resolveSegments levels segments) ≤ pathLength levels + pathLength segments := by
  induction segments generalizing levels with
  | nil => exact Nat.le_refl _
  | cons segment rest ih =>
    have hparent := pathLength_parent_le levels
    have hnil : readLength [] = 0 := rfl
    rw [Uri.resolveSegments, pathLength_cons]
    -- Two dots take a level away before the segment adds anything.
    generalize hreached : (if Uri.isDoubleDot segment = true then Uri.parent levels else levels) =
      reached
    have hle : pathLength reached ≤ pathLength levels := by
      rw [← hreached]
      split
      · exact hparent
      · exact Nat.le_refl _
    split
    · split
      · rw [pathLength_cons, hnil]
        omega
      · have := ih reached
        omega
    · have := ih (segment :: levels)
      rw [pathLength_cons] at this
      omega

private theorem readLength_intercalate {levels : List (List Char)} (h : levels ≠ []) :
    readLength (['/'].intercalate levels) + 1 = pathLength levels :=
  Percent.count_intercalate readLength_slash h

private theorem exists_readPath (cs : List Char) :
    ∃ levels, Uri.readPath cs = '/' :: levels ∧ readLength levels ≤ cs.length := by
  let segments := (encode Percent.inPath cs).splitOn '/'
  let levels := (Uri.resolveSegments [] segments).reverse
  refine ⟨['/'].intercalate levels, rfl, ?_⟩
  have hsegments : readLength (encode Percent.inPath cs) + 1 = pathLength segments := by
    rw [← readLength_intercalate (List.splitOn_ne_nil '/' _), List.intercalate_splitOn]
  have hencode := Percent.readLength_encode_le Percent.inPath cs
  have hresolve : pathLength levels ≤ pathLength segments := by
    have hle := pathLength_resolveSegments_le [] segments
    rw [pathLength, List.map_reverse, List.sum_reverse, ← pathLength]
    simpa [pathLength] using hle
  cases hl : levels with
  | nil => exact Nat.zero_le _
  | cons level rest =>
    have hcount := readLength_intercalate (List.cons_ne_nil level rest)
    rw [hl] at hresolve
    omega

private theorem readLength_dropWhile_le (path : List Char) :
    readLength (path.dropWhile (· == '/')) ≤ readLength path := by
  induction path with
  | nil => exact Nat.le_refl _
  | cons c path ih =>
    by_cases hc : c = '/'
    · have hslash := readLength_slash [] path
      rw [hc, List.dropWhile_cons_of_pos (by decide)]
      rw [List.nil_append] at hslash
      omega
    · rw [List.dropWhile_cons_of_neg (by simpa using hc)]

private theorem readLength_takeWhile_le (path : List Char) :
    readLength (path.takeWhile (· != '/')) ≤ readLength path := by
  rcases Text.forall_or_exists_cut (· != '/') path with hall | ⟨before, c, after, rfl, hb, hc⟩
  · rw [List.takeWhile_eq_self_iff.mpr hall]
  · have hslash : c = '/' := by simpa using hc
    have hlength := readLength_slash before after
    rw [hslash, Text.takeWhile_append_of_head hb (by simp)]
    omega

private theorem length_of_readPart {property : Property} {part : List Char} {text : String}
    (h : readPart property part = .ok text) : text.toList.length = readLength part :=
  Utf8.length_of_decode? (readPart_eq_ok_iff.mp h)

/-- The text of the first segment is no longer than the path. -/
theorem length_readPart_firstSegment_le {property : Property} {path : List Char} {text : String}
    (h : readPart property (firstSegment (Uri.readPathAfterAuthority path)) = .ok text) :
    text.toList.length ≤ path.length := by
  rw [length_of_readPart h]
  have hread : ∀ cs, readLength (firstSegment (Uri.readPath cs)) ≤ cs.length := by
    intro cs
    obtain ⟨levels, hl, hle⟩ := exists_readPath cs
    have hd := readLength_dropWhile_le levels
    have ht := readLength_takeWhile_le (levels.dropWhile (· == '/'))
    rw [hl, firstSegment, List.dropWhile_cons_of_pos (by decide)]
    omega
  rw [Uri.readPathAfterAuthority.eq_def]
  split
  · exact Nat.le_refl _
  · next rest => exact Nat.le_succ_of_le (hread rest)
  · exact hread path

private theorem formLength_optionText {pair : String × String} (h : IsPlainKey pair.1) :
    formLength (optionText pair) = pair.1.toList.length + pair.2.toList.length + 1 := by
  rw [optionText, Percent.formLength_append_cons _ isMark_equals (by decide), formLength,
    decodeForm_key h, formLength, Percent.decodeForm_encodeForm]

private theorem formLength_queryText {pairs : List (String × String)} (hne : pairs ≠ [])
    (h : ∀ pair ∈ pairs, IsPlainKey pair.1) :
    formLength (queryText pairs) + 1 = weight pairs := by
  rw [queryText, Percent.count_intercalate (fun a b ↦
    Percent.formLength_append_cons a isMark_ampersand (by decide) b) (by simpa using hne),
    List.map_map, weight]
  apply congrArg List.sum
  apply List.map_congr_left
  intro pair hp
  rw [Function.comp_apply, formLength_optionText (h pair hp)]

private theorem not_escaped_of_mem_publicRest (m : PropertyMap) :
    ∀ c ∈ publicRest m, c ≠ '#' ∧ Percent.inQuery c = false := by
  intro c hc
  rcases List.mem_append.mp hc with hp | hq
  · rcases List.mem_cons.mp hp with rfl | hd
    · decide
    · exact Percent.forall_isPlain (p := fun c ↦ c ≠ '#' ∧ Percent.inQuery c = false)
        (by decide +kernel) (Percent.isPlain_of_mem_encode c hd)
  · rw [publicQuery] at hq
    split at hq
    · cases hq
    · rcases List.mem_cons.mp hq with rfl | ho
      · decide
      · exact (isQueryChar_spec (isQueryChar_of_mem_query c ho)).2

private theorem formLength_publicRest (m : PropertyMap) :
    formLength (publicRest m) = (databasePart m).length + weight (publicOptions m) + 1 := by
  have hslash := Percent.formLength_append_cons [] isMark_slash (by decide)
    (encode Percent.inComponent (databasePart m) ++ publicQuery m)
  have hnil : formLength [] = 0 := rfl
  have hdatabase : formLength (encode Percent.inComponent (databasePart m)) =
      (databasePart m).length := by
    rw [formLength, Percent.keepsApart_inComponent.decodeForm_encode]
  rw [List.nil_append, hnil] at hslash
  rw [publicRest, List.cons_append, hslash, publicQuery]
  split
  · next he =>
    have hweight : weight [] = 0 := rfl
    rw [List.append_nil, hdatabase, he, hweight]
    omega
  · next hne =>
    have hquery := formLength_queryText hne isPlainKey_of_mem_publicOptions
    rw [Percent.formLength_append_cons _ (by decide) (by decide), hdatabase]
    omega

/-- A query that goes on with the rest of the form counts as what is before, and as the database
and the options of the form. -/
theorem formLength_query_le (m : PropertyMap) (before : List Char) :
    formLength (encode Percent.inQuery ((before ++ publicRest m).takeWhile (· != '#'))) ≤
      before.length + (databasePart m).length + weight (publicOptions m) + 1 := by
  have hrest := formLength_publicRest m
  by_cases hm : ∀ c ∈ before, (c != '#') = true
  · have hplain := not_escaped_of_mem_publicRest m
    have hend : (before ++ publicRest m).takeWhile (· != '#') = before ++ publicRest m := by
      rw [List.takeWhile_append_of_pos hm, List.takeWhile_eq_self_iff.mpr]
      exact fun c hc ↦ bne_iff_ne.mpr (hplain c hc).1
    have hencode : encode Percent.inQuery (before ++ publicRest m) =
        encode Percent.inQuery before ++ publicRest m := by
      rw [Percent.encode_append, Percent.encode_eq_self fun c hc ↦ (hplain c hc).2]
    have hbefore := Percent.formLength_encode_le Percent.inQuery before
    have hslash := Percent.formLength_append_cons (encode Percent.inQuery before) isMark_slash
      (by decide) (encode Percent.inComponent (databasePart m) ++ publicQuery m)
    have hnil := Percent.formLength_append_cons [] isMark_slash (by decide)
      (encode Percent.inComponent (databasePart m) ++ publicQuery m)
    have hzero : formLength [] = 0 := rfl
    rw [publicRest, List.cons_append] at hrest
    rw [hend, hencode, publicRest, List.cons_append, hslash]
    rw [List.nil_append] at hnil
    omega
  · have hend : ((before ++ publicRest m).takeWhile (· != '#')).length ≤ before.length := by
      rw [List.takeWhile_append, if_neg]
      · exact (List.takeWhile_prefix _).length_le
      · intro hlength
        have hself := (List.takeWhile_prefix _).eq_of_length hlength
        exact hm (List.takeWhile_eq_self_iff.mp hself)
    have hencode := Percent.formLength_encode_le Percent.inQuery
      ((before ++ publicRest m).takeWhile (· != '#'))
    omega

end ConnectionConfig.ConnectionString
