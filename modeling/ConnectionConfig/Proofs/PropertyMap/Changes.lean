import Mathlib.Data.List.Induction
import ConnectionConfig.Proofs.Property.Canonical
import ConnectionConfig.Proofs.PropertyMap.Views

/-!
# Sequences of changes

A property map is a record with the properties as its fields: a change of one property leaves all
others alone, and of several changes of one property the last decides. What was set is read as it
was set, although it is kept as text in between. The login timeout is the one exception: it is set
as an unsigned word and read as a signed one.
-/

namespace ConnectionConfig

namespace Change

/-- The property that is changed. -/
def property : Change → Property
  | set setting => setting.property
  | unset property => property

/-- The text that the property has after the change; none if it has no value then. -/
def text? : Change → Option String
  | set setting => some setting.text
  | unset _ => none

/-- The last change of a property in a sequence of changes. -/
def last? (changes : List Change) (p : Property) : Option Change :=
  (changes.filter fun change ↦ change.property = p).getLast?

/-- A further change is the last of its property, and is none of any other. -/
theorem last?_concat (changes : List Change) (change : Change) (p : Property) :
    last? (changes ++ [change]) p =
      if change.property = p then some change else last? changes p := by
  rw [last?, List.filter_append, List.filter_singleton]
  by_cases h : change.property = p
  · rw [if_pos h, decide_eq_true h, cond_true, List.getLast?_concat]
  · rw [if_neg h, decide_eq_false h, cond_false, List.append_nil, ← last?]

/-- The last change of a property changes this property. -/
theorem property_of_last? {changes : List Change} {change : Change} {p : Property}
    (h : last? changes p = some change) : change.property = p :=
  of_decide_eq_true (List.mem_filter.mp (List.mem_of_getLast? h)).2

end Change

namespace PropertyMap

/-- The map after changes, one after the other. -/
def changeAll (m : PropertyMap) (changes : List Change) : PropertyMap := changes.foldl change m

/-- A change decides on the value of its property, and leaves the others alone. -/
theorem raw?_change (m : PropertyMap) (change : Change) (p : Property) :
    (m.change change).raw? p = if change.property = p then change.text? else m.raw? p := by
  simp only [eq_comm (a := change.property)]
  cases change with
  | set setting => exact raw?_putRaw m setting.property setting.text p
  | unset q => exact raw?_unset m q p

/-- After several changes the last one of a property has decided on its value. -/
theorem raw?_changeAll (m : PropertyMap) (changes : List Change) (p : Property) :
    (m.changeAll changes).raw? p =
      match Change.last? changes p with
      | some change => change.text?
      | none => m.raw? p := by
  -- A further change comes last, so the induction is from the end.
  induction changes using List.reverseRecOn with
  | nil => rfl
  | append_singleton changes change ih =>
    have hstep : m.changeAll (changes ++ [change]) = (m.changeAll changes).change change :=
      List.foldl_append
    rw [hstep, raw?_change, Change.last?_concat]
    split
    · rfl
    · exact ih

/-- What the reader of a property gives, as a setting of the property; none if it gives no value. -/
def reading? (m : PropertyMap) : Property → Option Setting
  | .user => m.user?.map .user
  | .password => m.password?.map .password
  | .host => m.host?.map .host
  | .database => m.database?.map .database
  | .applicationName => some (.applicationName m.applicationName)
  | .loginTimeout => m.loginTimeout?.map .loginTimeout
  | .scanLimit => m.scanLimit?.map .scanLimit
  | .scanMethod => some (.scanMethod m.scanMethod)
  | .retryReads => some (.retryReads m.retryReads)
  | .readPreference => m.readPreference?.map .readPreference
  | .tls => some (.tls m.tls)
  | .tlsAllowInvalidHostnames => some (.tlsAllowInvalidHostnames m.tlsAllowInvalidHostnames)
  | .tlsCaFile => m.tlsCaFile?.map .tlsCaFile
  | .replicaSet => m.replicaSet?.map .replicaSet
  | .schemaName => some (.schemaName m.schemaName)
  | .sshUser => m.sshUser?.map .sshUser
  | .sshHost => m.sshHost?.map .sshHost
  | .sshPrivateKeyFile => m.sshPrivateKeyFile?.map .sshPrivateKeyFile
  | .sshPrivateKeyPassphrase => m.sshPrivateKeyPassphrase?.map .sshPrivateKeyPassphrase
  | .sshStrictHostKeyChecking => some (.sshStrictHostKeyChecking m.sshStrictHostKeyChecking)
  | .sshKnownHostsFile => m.sshKnownHostsFile?.map .sshKnownHostsFile
  | .defaultFetchSize => m.defaultFetchSize?.map .defaultFetchSize
  | .refreshSchema => some (.refreshSchema m.refreshSchema)
  | .authenticationDatabase => some (.authenticationDatabase m.authenticationDatabase)
  | .allowDiskUse => some (.allowDiskUse m.allowDiskUse)

/-- What is read of a property that is no text goes by the canonical form of its value. -/
theorem reading?_congr_canonical? {a b : PropertyMap} {p : Property} (hp : p.type ≠ .text)
    (h : (a.raw? p).bind p.type.canonical? = (b.raw? p).bind p.type.canonical?) :
    a.reading? p = b.reading? p := by
  have hvalue : ∀ {α : Type} (parse : String → Option α), a.value? parse p = b.value? parse p :=
    fun parse ↦ value?_congr parse h
  have hflag : a.flag p = b.flag p := congrArg (Option.getD · false) (hvalue readBoolean?)
  have hnumber : a.number? p = b.number? p := hvalue _
  cases p with
  | user | password | host | database | applicationName | tlsCaFile | replicaSet | schemaName
  | sshUser | sshHost | sshPrivateKeyFile | sshPrivateKeyPassphrase | sshKnownHostsFile
  | authenticationDatabase => exact absurd rfl hp
  | loginTimeout => rw [reading?, reading?, loginTimeout?, loginTimeout?, hnumber]
  | scanLimit | defaultFetchSize => exact congrArg (Option.map _) hnumber
  | tls => exact congrArg (some <| Setting.tls ·) hflag
  | tlsAllowInvalidHostnames => exact congrArg (some <| Setting.tlsAllowInvalidHostnames ·) hflag
  | retryReads => exact congrArg (some <| Setting.retryReads ·) hflag
  | sshStrictHostKeyChecking => exact congrArg (some <| Setting.sshStrictHostKeyChecking ·) hflag
  | refreshSchema => exact congrArg (some <| Setting.refreshSchema ·) hflag
  | readPreference => exact congrArg (Option.map Setting.readPreference) (hvalue _)
  | scanMethod => exact congrArg (fun v ↦ some (Setting.scanMethod (v.getD .random))) (hvalue _)
  | allowDiskUse =>
    exact congrArg (fun v ↦ some (Setting.allowDiskUse (v.getD .default))) (hvalue _)

/-- What is read of a property goes by its raw value. -/
theorem reading?_congr {a b : PropertyMap} {p : Property} (h : a.raw? p = b.raw? p) :
    a.reading? p = b.reading? p := by
  have hdefault : a.rawOrDefault p = b.rawOrDefault p := rawOrDefault_congr h
  by_cases ht : p.type = .text
  · cases p with
    | user | password | host | database | tlsCaFile | replicaSet | sshUser | sshHost
    | sshPrivateKeyFile | sshPrivateKeyPassphrase | sshKnownHostsFile =>
      exact congrArg (Option.map _) h
    | applicationName => exact congrArg (some <| Setting.applicationName ·) hdefault
    | schemaName => exact congrArg (some <| Setting.schemaName ·) hdefault
    | authenticationDatabase =>
      exact congrArg (some <| Setting.authenticationDatabase ·) hdefault
    | loginTimeout | scanLimit | scanMethod | retryReads | readPreference | tls
    | tlsAllowInvalidHostnames | sshStrictHostKeyChecking | defaultFetchSize | refreshSchema
    | allowDiskUse => cases ht
  · exact reading?_congr_canonical? ht (by rw [h])

section Set

variable {m : PropertyMap} {p : Property}

/-- A canonical text is read as the value that it stands for. -/
theorem value?_of_canonical? {α : Type} {parse : String → Option α} {text : String} {value : α}
    (h : m.raw? p = some text) (hcanonical : p.type.canonical? text = some text)
    (hparse : parse text = some value) : m.value? parse p = some value := by
  rw [value?, h, Option.bind_some, hcanonical, Option.bind_some, hparse]
  rfl

/-- A text with a default is read as it is. -/
theorem rawOrDefault_of_raw? {text : String} (h : m.raw? p = some text) :
    m.rawOrDefault p = text := by
  rw [rawOrDefault, h, Option.getD_some]

/-- The word for a truth value is read as the truth value. -/
theorem flag_of_booleanText {value : Bool} (htype : p.type = .boolean)
    (h : m.raw? p = some (ValueType.booleanText value)) : m.flag p = value := by
  have hcanonical : ValueType.canonical? .boolean (ValueType.booleanText value) =
      some (ValueType.booleanText value) := by
    cases value <;> decide
  have hread : readBoolean? (ValueType.booleanText value) = some value := by
    cases value <;> rfl
  rw [flag, value?_of_canonical? h (htype ▸ hcanonical) hread, Option.getD_some]

/-- The numeral of a word is read as the word. -/
theorem number?_of_ofInt32 {value : Int32} (htype : p.type = .integer)
    (h : m.raw? p = some (Decimal.ofInt32 value)) : m.number? p = some value :=
  value?_of_canonical? h (htype ▸ ValueType.canonical?_ofInt32 value)
    (Decimal.readInt32?_ofInt32 value)

/-- A setting is read as it was set, unless it is a login timeout. -/
theorem reading?_of_text {s : Setting} (hs : s.property ≠ .loginTimeout)
    (h : m.raw? s.property = some s.text) : m.reading? s.property = some s := by
  cases s with
  | host v | user v | password v | database v | tlsCaFile v | replicaSet v | sshUser v | sshHost v
  | sshPrivateKeyFile v | sshPrivateKeyPassphrase v | sshKnownHostsFile v =>
    exact congrArg (Option.map _) h
  | applicationName v => exact congrArg (some <| Setting.applicationName ·) (rawOrDefault_of_raw? h)
  | schemaName v => exact congrArg (some <| Setting.schemaName ·) (rawOrDefault_of_raw? h)
  | authenticationDatabase v =>
    exact congrArg (some <| Setting.authenticationDatabase ·) (rawOrDefault_of_raw? h)
  | loginTimeout v => exact absurd rfl hs
  | scanLimit v | defaultFetchSize v => exact congrArg (Option.map _) (number?_of_ofInt32 rfl h)
  | tls v => exact congrArg (some <| Setting.tls ·) (flag_of_booleanText rfl h)
  | tlsAllowInvalidHostnames v =>
    exact congrArg (some <| Setting.tlsAllowInvalidHostnames ·) (flag_of_booleanText rfl h)
  | retryReads v => exact congrArg (some <| Setting.retryReads ·) (flag_of_booleanText rfl h)
  | sshStrictHostKeyChecking v =>
    exact congrArg (some <| Setting.sshStrictHostKeyChecking ·) (flag_of_booleanText rfl h)
  | refreshSchema v => exact congrArg (some <| Setting.refreshSchema ·) (flag_of_booleanText rfl h)
  | readPreference v =>
    have hread : m.value? Keyword.find? .readPreference = some v :=
      value?_of_canonical? h (by cases v <;> decide +kernel) (by cases v <;> decide +kernel)
    exact congrArg (Option.map Setting.readPreference) hread
  | scanMethod v =>
    have hread : m.value? Keyword.find? .scanMethod = some v :=
      value?_of_canonical? h (by cases v <;> decide +kernel) (by cases v <;> decide +kernel)
    exact congrArg (fun found ↦ some (Setting.scanMethod (found.getD .random))) hread
  | allowDiskUse v =>
    have hread : m.value? Keyword.find? .allowDiskUse = some v :=
      value?_of_canonical? h (by cases v <;> decide +kernel) (by cases v <;> decide +kernel)
    exact congrArg (fun found ↦ some (Setting.allowDiskUse (found.getD .default))) hread

end Set

/-- After any changes of any properties, what is read of a property other than the login timeout is
what was last set for it; if its value was taken away last, what is read of an empty map; and if it
was not changed at all, what was read before. -/
theorem reading?_changeAll (m : PropertyMap) (changes : List Change) {p : Property}
    (hp : p ≠ .loginTimeout) :
    (m.changeAll changes).reading? p =
      match Change.last? changes p with
      | some (.set setting) => some setting
      | some (.unset _) => empty.reading? p
      | none => m.reading? p := by
  have hraw := raw?_changeAll m changes p
  cases hlast : Change.last? changes p with
  | none =>
    rw [hlast] at hraw
    exact reading?_congr hraw
  | some change =>
    rw [hlast] at hraw
    have hproperty := Change.property_of_last? hlast
    cases change with
    | set setting =>
      subst hproperty
      exact reading?_of_text hp hraw
    | unset q => exact reading?_congr hraw

/-- Extreme and blank values, a value that is taken away, and a login timeout in between. -/
theorem reading?_changeAll_of_extremes :
    let m := ofList [("tls", " True"), ("scanLimit", "many"), ("readPreference", "NEAREST")]
    let changes := [.set (.scanLimit 5), .unset .tls, .set (.loginTimeout 4294967295),
      .set (.schemaName ""), .set (.scanLimit (-2147483648)), .set (.allowDiskUse .enable),
      .unset .allowDiskUse]
    (m.changeAll changes).reading? .scanLimit = some (.scanLimit (-2147483648)) ∧
      (m.changeAll changes).reading? .schemaName = some (.schemaName "") ∧
      (m.changeAll changes).reading? .tls = some (.tls false) ∧
      (m.changeAll changes).reading? .allowDiskUse = some (.allowDiskUse .default) ∧
      (m.changeAll changes).reading? .readPreference = some (.readPreference .nearest) := by
  intro m changes
  exact ⟨(reading?_changeAll m changes (by decide)).trans (by decide +kernel),
    (reading?_changeAll m changes (by decide)).trans (by decide +kernel),
    (reading?_changeAll m changes (by decide)).trans (by decide +kernel),
    (reading?_changeAll m changes (by decide)).trans (by decide +kernel),
    (reading?_changeAll m changes (by decide)).trans (by decide +kernel)⟩

end PropertyMap

end ConnectionConfig
