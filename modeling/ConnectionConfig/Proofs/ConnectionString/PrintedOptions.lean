import ConnectionConfig.Proofs.ConnectionString.PublicForm
import ConnectionConfig.Proofs.PropertyMap.Changes

/-!
# Which options are printed

The form for logs has an option for each value that may be printed and deviates from the default.
The readers of truth values, integers and keywords give another value than for an empty map just
when there is an option, and its text is the text of the value that they give. The login timeout is
left out: a negative one has an option although its reader gives none.
-/

namespace ConnectionConfig

namespace ValueType

/-- The canonical form of a truth value is its word. -/
theorem exists_of_canonical?_boolean {raw v : String} (h : canonical? .boolean raw = some v) :
    ∃ b, booleanText b = v := by
  have htrimmed := canonicalTrimmed?_of_canonical? h
  rw [canonicalTrimmed?] at htrimmed
  split at htrimmed
  · exact ⟨true, Option.some.inj htrimmed⟩
  · split at htrimmed
    · exact ⟨false, Option.some.inj htrimmed⟩
    · cases htrimmed

/-- The canonical form of an integer is its shortest numeral. -/
theorem exists_of_canonical?_integer {raw v : String} (h : canonical? .integer raw = some v) :
    ∃ n, Decimal.ofInt32 n = v := by
  obtain ⟨n, -, hn⟩ := Option.map_eq_some_iff.mp (canonicalTrimmed?_of_canonical? h)
  exact ⟨n, hn⟩

/-- The canonical form of a keyword is the keyword as the type of the values spells it. -/
theorem exists_of_canonical?_oneOf {α : Type} [Keyword α] {raw v : String}
    (h : canonical? (.oneOf (Keyword.texts α)) raw = some v) :
    ∃ value : α, Keyword.text value = v := by
  have hmem : v ∈ Keyword.texts α :=
    List.mem_of_find?_eq_some (canonicalTrimmed?_of_canonical? h)
  obtain ⟨value, -, hv⟩ := List.mem_map.mp hmem
  exact ⟨value, hv⟩

end ValueType

namespace PropertyMap

variable {m : PropertyMap} {p : Property}

private theorem exists_setting_of_text {α : Type} {text : α → String} {v : String}
    (setting : α → Setting)
    (hsetting : ∀ value, (setting value).property = p ∧ (setting value).text = text value)
    (h : ∃ value, text value = v) : ∃ s : Setting, s.property = p ∧ s.text = v := by
  obtain ⟨value, rfl⟩ := h
  exact ⟨setting value, hsetting value⟩

/-- A canonical value that is no text is the text of a setting. -/
theorem exists_setting_of_canonical? {raw v : String} (ht : p.type ≠ .text)
    (hp : p ≠ .loginTimeout) (h : p.type.canonical? raw = some v) :
    ∃ s : Setting, s.property = p ∧ s.text = v := by
  cases p with
  | user | password | host | database | applicationName | tlsCaFile | replicaSet | schemaName
  | sshUser | sshHost | sshPrivateKeyFile | sshPrivateKeyPassphrase | sshKnownHostsFile
  | authenticationDatabase => exact absurd rfl ht
  | loginTimeout => exact absurd rfl hp
  | scanLimit =>
    exact exists_setting_of_text .scanLimit (fun _ ↦ ⟨rfl, rfl⟩)
      (ValueType.exists_of_canonical?_integer h)
  | defaultFetchSize =>
    exact exists_setting_of_text .defaultFetchSize (fun _ ↦ ⟨rfl, rfl⟩)
      (ValueType.exists_of_canonical?_integer h)
  | tls =>
    exact exists_setting_of_text .tls (fun _ ↦ ⟨rfl, rfl⟩)
      (ValueType.exists_of_canonical?_boolean h)
  | tlsAllowInvalidHostnames =>
    exact exists_setting_of_text .tlsAllowInvalidHostnames (fun _ ↦ ⟨rfl, rfl⟩)
      (ValueType.exists_of_canonical?_boolean h)
  | retryReads =>
    exact exists_setting_of_text .retryReads (fun _ ↦ ⟨rfl, rfl⟩)
      (ValueType.exists_of_canonical?_boolean h)
  | sshStrictHostKeyChecking =>
    exact exists_setting_of_text .sshStrictHostKeyChecking (fun _ ↦ ⟨rfl, rfl⟩)
      (ValueType.exists_of_canonical?_boolean h)
  | refreshSchema =>
    exact exists_setting_of_text .refreshSchema (fun _ ↦ ⟨rfl, rfl⟩)
      (ValueType.exists_of_canonical?_boolean h)
  | readPreference =>
    exact exists_setting_of_text .readPreference (fun _ ↦ ⟨rfl, rfl⟩)
      (ValueType.exists_of_canonical?_oneOf h)
  | scanMethod =>
    exact exists_setting_of_text .scanMethod (fun _ ↦ ⟨rfl, rfl⟩)
      (ValueType.exists_of_canonical?_oneOf h)
  | allowDiskUse =>
    exact exists_setting_of_text .allowDiskUse (fun _ ↦ ⟨rfl, rfl⟩)
      (ValueType.exists_of_canonical?_oneOf h)

/-- What is read of a value that is no text has the canonical form as its text. -/
theorem exists_reading?_of_canonical? {v : String} (ht : p.type ≠ .text) (hp : p ≠ .loginTimeout)
    (h : (m.raw? p).bind p.type.canonical? = some v) :
    ∃ s, m.reading? p = some s ∧ s.text = v := by
  obtain ⟨raw, -, hraw⟩ := Option.bind_eq_some_iff.mp h
  obtain ⟨s, rfl, rfl⟩ := exists_setting_of_canonical? ht hp hraw
  refine ⟨s, ?_, rfl⟩
  have hput : (m.putRaw s.property s.text).raw? s.property = some s.text :=
    (raw?_putRaw m _ _ _).trans (if_pos rfl)
  have hcanonical : (m.raw? s.property).bind s.property.type.canonical? =
      ((m.putRaw s.property s.text).raw? s.property).bind s.property.type.canonical? := by
    rw [h, hput, Option.bind_some, ValueType.canonical?_self hraw]
  rw [reading?_congr_canonical? ht hcanonical]
  exact reading?_of_text hp hput

/-- What is read of an empty map is the default. -/
theorem text_reading?_empty (ht : p.type ≠ .text) :
    (empty.reading? p).map Setting.text = p.type.canonical? p.default := by
  have hall : ∀ q ∈ Property.all, q.type ≠ .text →
      (empty.reading? q).map Setting.text = q.type.canonical? q.default := by
    decide +kernel
  exact hall p (Property.mem_all p) ht

/-- A default that is put down is read as it is of an empty map. -/
theorem reading?_putRaw_default (ht : p.type ≠ .text) :
    (empty.putRaw p p.default).reading? p = empty.reading? p := by
  have hall : ∀ q ∈ Property.all, q.type ≠ .text →
      (empty.putRaw q q.default).reading? q = empty.reading? q := by
    decide +kernel
  exact hall p (Property.mem_all p) ht

/-- What is read of a value that is no text is what is read of an empty map just when there is no
value of the type or the value is the default. -/
theorem reading?_eq_empty_iff (ht : p.type ≠ .text) (hp : p ≠ .loginTimeout) :
    m.reading? p = empty.reading? p ↔
      ∀ v, (m.raw? p).bind p.type.canonical? = some v → p.type.canonical? p.default = some v := by
  constructor
  · intro h v hv
    obtain ⟨s, hs, rfl⟩ := exists_reading?_of_canonical? ht hp hv
    rw [← text_reading?_empty ht, ← h, hs, Option.map_some]
  · intro h
    cases hc : (m.raw? p).bind p.type.canonical? with
    | none => exact reading?_congr_canonical? ht hc
    | some v =>
      rw [← reading?_putRaw_default ht]
      apply reading?_congr_canonical? ht
      rw [hc, raw?_putRaw, if_pos rfl, Option.bind_some, h v hc]

end PropertyMap

namespace ConnectionString

open Uri (withUserInfo)
open Percent (encode inComponent)

/-- A deviation is a canonical value other than the default. -/
theorem deviation?_eq_some_iff {m : PropertyMap} {p : Property} {value : String} :
    deviation? m p.entry = some value ↔
      (m.raw? p).bind p.type.canonical? = some value ∧
        p.type.canonical? p.default ≠ some value := by
  rw [deviation?, Option.filter_eq_some_iff, bne_iff_ne, ne_comm]
  rfl

/-- There is an option for a key and a value just when the value is the canonical one of a property
that may be printed, and not the default. -/
theorem mem_publicOptions_iff {m : PropertyMap} {key value : String} :
    (key, value) ∈ publicOptions m ↔
      ∃ p : Property, p.name = key ∧ p.entry.printed = true ∧
        (m.raw? p).bind p.type.canonical? = some value ∧
        p.type.canonical? p.default ≠ some value := by
  rw [publicOptions, deviations, List.mem_filterMap]
  constructor
  · rintro ⟨e, he, hv⟩
    obtain ⟨he, hprinted⟩ := List.mem_filter.mp he
    obtain ⟨p, rfl⟩ := Schema.mem_entries_standard.mp he
    obtain ⟨v, hv, hpair⟩ := Option.map_eq_some_iff.mp hv
    cases hpair
    exact ⟨p, rfl, hprinted, deviation?_eq_some_iff.mp hv⟩
  · rintro ⟨p, rfl, hprinted, hvalue⟩
    refine ⟨p.entry, List.mem_filter.mpr ⟨Schema.mem_entries_standard.mpr ⟨p, rfl⟩, hprinted⟩, ?_⟩
    rw [deviation?_eq_some_iff.mpr hvalue]
    rfl

/-- The keys of the options stand in the order of the properties. -/
theorem map_fst_publicOptions_sublist (m : PropertyMap) :
    ((publicOptions m).map Prod.fst).Sublist (Property.all.map Property.name) := by
  have hall : Schema.standard.entries.map SchemaEntry.name = Property.all.map Property.name :=
    List.map_map
  rw [← hall]
  exact (map_fst_filterMap_sublist _ _).trans (List.filter_sublist.map _)

/-- There is an option for a property that is no text just when another value is read of it than of
an empty map. -/
theorem exists_mem_publicOptions_iff {m : PropertyMap} {p : Property} (ht : p.type ≠ .text)
    (hp : p ≠ .loginTimeout) :
    (∃ value, (p.name, value) ∈ publicOptions m) ↔
      m.reading? p ≠ PropertyMap.empty.reading? p := by
  have hprinted : p.entry.printed = true := by
    revert ht
    cases p <;> decide
  rw [ne_eq, PropertyMap.reading?_eq_empty_iff ht hp]
  simp only [not_forall, exists_prop]
  constructor
  · rintro ⟨value, h⟩
    obtain ⟨q, hq, -, hc, hne⟩ := mem_publicOptions_iff.mp h
    cases Property.name_inj.mp hq
    exact ⟨value, hc, hne⟩
  · rintro ⟨value, hc, hne⟩
    exact ⟨value, mem_publicOptions_iff.mpr ⟨p, rfl, hprinted, hc, hne⟩⟩

/-- The options of the form for logs. They follow the database, with a question mark before the
first of them and an ampersand between two, and nothing at all if there are none. Their keys stand
in the order of the properties, each at most once. There is one just for each canonical value of a
property that may be printed and that is not the default. So for a truth value, an integer or a
keyword other than the login timeout there is one just when the reader gives another value than for
an empty map, and the text is that of the value. -/
theorem options_of_printPublic (m : PropertyMap) :
    ∃ options : List (String × String),
      (printPublic Schema.standard m).toList =
        '/' :: '/' :: withUserInfo ((part m .user).map (encode inComponent))
          ((part m .host).getD [] ++ '/' :: encode inComponent ((part m .database).getD []) ++
            if options = [] then [] else '?' :: ['&'].intercalate (options.map optionText)) ∧
      (options.map Prod.fst).Sublist (Property.all.map Property.name) ∧
      (options.map Prod.fst).Nodup ∧
      (∀ key value, (key, value) ∈ options ↔
        ∃ p : Property, p.name = key ∧ p.entry.printed = true ∧
          (m.raw? p).bind p.type.canonical? = some value ∧
          p.type.canonical? p.default ≠ some value) ∧
      ∀ p : Property, p.type ≠ .text → p ≠ .loginTimeout →
        ((∃ value, (p.name, value) ∈ options) ↔
          m.reading? p ≠ PropertyMap.empty.reading? p) ∧
        ∀ value, (p.name, value) ∈ options → ∃ s, m.reading? p = some s ∧ s.text = value := by
  have hsublist := map_fst_publicOptions_sublist m
  refine ⟨publicOptions m, ?_, hsublist, Property.nodup_names.sublist hsublist,
    fun _ _ ↦ mem_publicOptions_iff, fun p ht hp ↦ ⟨exists_mem_publicOptions_iff ht hp, ?_⟩⟩
  · rw [toList_printPublic, publicRest, publicQuery, userInfo?, hostPart, databasePart, queryText,
      List.append_assoc]
  · intro value h
    obtain ⟨q, hq, -, hc, -⟩ := mem_publicOptions_iff.mp h
    cases Property.name_inj.mp hq
    exact PropertyMap.exists_reading?_of_canonical? ht hp hc

/-- A numeral with a sign and zeros, words in other letters, and a word that is no truth value: one
option, one that means the default, and one that does not count. -/
theorem options_of_printPublic_raw_values :
    let m := PropertyMap.ofList [("tls", "maybe"), ("scanMethod", "Random "),
      ("scanLimit", " +0050"), ("loginTimeoutSec", "-5")]
    printPublic Schema.standard m = "///?loginTimeoutSec=-5&scanLimit=50" ∧
      ∃ options : List (String × String), ("scanLimit", "50") ∈ options ∧
        (∃ value, (Property.scanLimit.name, value) ∈ options) ∧
        (¬ ∃ value, (Property.scanMethod.name, value) ∈ options) ∧
        ¬ ∃ value, (Property.tls.name, value) ∈ options := by
  intro m
  obtain ⟨options, -, -, -, hmem, hreading⟩ := options_of_printPublic m
  refine ⟨by decide +kernel, options, (hmem _ _).mpr ⟨.scanLimit, by decide +kernel⟩,
    (hreading .scanLimit (by decide) (by decide)).1.mpr (by decide +kernel), ?_, ?_⟩
  · rw [(hreading .scanMethod (by decide) (by decide)).1]
    decide +kernel
  · rw [(hreading .tls (by decide) (by decide)).1]
    decide +kernel

end ConnectionString

end ConnectionConfig
