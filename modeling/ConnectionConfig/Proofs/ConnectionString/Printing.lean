import Mathlib.Data.List.Basic
import ConnectionConfig.ConnectionString.Printer
import ConnectionConfig.Proofs.Property.Entries

/-!
# What is printed

Both printed forms go by the parts that are not blank and by the deviations from the defaults. None
of them is taken from the password. A deviation goes by the value that is in effect, so that neither
the order of the entries nor the raw form of a value is seen.
-/

namespace ConnectionConfig.ConnectionString

variable {a b : PropertyMap}

/-- Deviations go by the canonical form of the value. -/
theorem deviation?_congr_canonical? {entry : SchemaEntry}
    (h : (a.get? entry.name).bind entry.type.canonical? =
      (b.get? entry.name).bind entry.type.canonical?) :
    deviation? a entry = deviation? b entry := by
  rw [deviation?, deviation?, h]

/-- Deviations go by the raw value. -/
theorem deviation?_congr {entry : SchemaEntry} (h : a.get? entry.name = b.get? entry.name) :
    deviation? a entry = deviation? b entry :=
  deviation?_congr_canonical? (by rw [h])

/-- A part goes by the raw value. -/
theorem part_congr {p : Property} (h : a.get? p.name = b.get? p.name) : part a p = part b p := by
  rw [part, part, PropertyMap.getNonBlank?, PropertyMap.getNonBlank?, h]

/-- A part is a value that is not blank. -/
theorem part_eq_some_iff {m : PropertyMap} {p : Property} {cs : List Char} :
    part m p = some cs ↔ m.getNonBlank? p.name = some (String.ofList cs) := by
  rw [part, Option.map_eq_some_iff]
  constructor
  · rintro ⟨value, hv, rfl⟩
    rw [hv, String.ofList_toList]
  · exact fun h ↦ ⟨_, h, String.toList_ofList⟩

/-- Options go by the deviations. -/
theorem printOptions_congr {entries : List SchemaEntry}
    (h : ∀ e ∈ entries, deviation? a e = deviation? b e) :
    printOptions a entries = printOptions b entries := by
  have ho : entries.filterMap (option? a) = entries.filterMap (option? b) :=
    List.filterMap_congr fun e he ↦ by rw [option?, option?, h e he]
  rw [printOptions, printOptions, ho]

/-- The form for logs goes by user, host and database, and by the deviations of the options that may
be printed. -/
theorem printPublic_congr {schema : Schema} (hu : part a .user = part b .user)
    (hh : part a .host = part b .host) (hd : part a .database = part b .database)
    (ho : ∀ e ∈ schema.entries, e.printed = true → deviation? a e = deviation? b e) :
    printPublic schema a = printPublic schema b := by
  have hq : printOptions a (schema.entries.filter SchemaEntry.printed) =
      printOptions b (schema.entries.filter SchemaEntry.printed) :=
    printOptions_congr fun e he ↦ ho e (List.mem_filter.mp he).1 (List.mem_filter.mp he).2
  rw [printPublic, printPublic, hu, hh, hd, hq]

/-- The form for the tunnel goes by the host, and by the deviations of the options for the tunnel
host. -/
theorem printTunnel_congr {schema : Schema} (hh : part a .host = part b .host)
    (ho : ∀ e ∈ tunnelProperties.filterMap fun p ↦ schema.find? p.name,
      deviation? a e = deviation? b e) :
    printTunnel schema a = printTunnel schema b := by
  rw [printTunnel, printTunnel, hh, printOptions_congr ho]

private theorem name_ne_password_of_printed :
    ∀ e ∈ Schema.standard.entries, e.printed = true → e.name ≠ Property.password.name := by
  decide +kernel

private theorem name_ne_password_of_tunnel :
    ∀ e ∈ tunnelProperties.filterMap fun p ↦ Schema.standard.find? p.name,
      e.name ≠ Property.password.name := by
  decide +kernel

/-- The form for logs does not see the password. -/
theorem printPublic_of_erase_password
    (h : ∀ key, key ≠ Property.password.name → a.get? key = b.get? key) :
    printPublic Schema.standard a = printPublic Schema.standard b :=
  printPublic_congr (part_congr (h _ (by decide))) (part_congr (h _ (by decide)))
    (part_congr (h _ (by decide))) fun e he hp ↦
      deviation?_congr (h _ (name_ne_password_of_printed e he hp))

/-- The form for the tunnel does not see the password. -/
theorem printTunnel_of_erase_password
    (h : ∀ key, key ≠ Property.password.name → a.get? key = b.get? key) :
    printTunnel Schema.standard a = printTunnel Schema.standard b :=
  printTunnel_congr (part_congr (h _ (by decide))) fun e he ↦
    deviation?_congr (h _ (name_ne_password_of_tunnel e he))

/-- The value of an entry that is in effect: its canonical form, or else the default, which a value
that is missing, blank or of another type counts as. -/
def effective? (properties : PropertyMap) (entry : SchemaEntry) : Option String :=
  (properties.get? entry.name).bind entry.type.canonical? <|> entry.type.canonical? entry.default

/-- The value in effect goes by the raw value. -/
theorem effective?_congr {entry : SchemaEntry} (h : a.get? entry.name = b.get? entry.name) :
    effective? a entry = effective? b entry := by
  rw [effective?, effective?, h]

/-- A deviation is a value in effect that differs from the default. -/
theorem deviation?_eq_filter_effective? (properties : PropertyMap) (entry : SchemaEntry) :
    deviation? properties entry =
      (effective? properties entry).filter fun value ↦
        some value != entry.type.canonical? entry.default := by
  rw [deviation?, effective?]
  cases (properties.get? entry.name).bind entry.type.canonical? with
  | some value => rfl
  | none =>
    cases hd : entry.type.canonical? entry.default with
    | none => rfl
    | some default =>
      change none = (some default).filter fun value ↦ some value != some default
      rw [Option.filter_some, bne_self_eq_false, if_neg Bool.false_ne_true]

/-- Deviations go by the values in effect. -/
theorem deviation?_congr_effective? {entry : SchemaEntry}
    (h : effective? a entry = effective? b entry) : deviation? a entry = deviation? b entry := by
  rw [deviation?_eq_filter_effective?, deviation?_eq_filter_effective?, h]

/-- A part goes by the value that is not blank. -/
theorem part_congr_getNonBlank? {p : Property}
    (h : a.getNonBlank? p.name = b.getNonBlank? p.name) : part a p = part b p := by
  rw [part, part, h]

/-- Secrets are not printed as options. -/
theorem not_mem_secrets_of_printed {p : Property} (h : p.entry.printed = true) :
    p ∉ [Property.password, .sshPrivateKeyPassphrase] := by
  revert h
  cases p <;> decide

/-- The properties for the tunnel host are found in the standard schema. -/
theorem filterMap_find?_tunnelProperties :
    (tunnelProperties.filterMap fun p ↦ Schema.standard.find? p.name) =
      [Property.sshUser, .sshHost, .sshPrivateKeyFile, .sshStrictHostKeyChecking,
        .sshKnownHostsFile].map Property.entry := by
  decide +kernel

/-- What the printed forms can tell two maps apart by. The form for logs tells them apart by user,
host, database and the values in effect that may be printed, which are no secrets; the form for the
tunnel by the host and the values in effect for the tunnel host, which are no secrets either. -/
theorem printed_eq_of_effective? :
    ((∀ p ∈ [Property.user, .host, .database],
        a.getNonBlank? p.name = b.getNonBlank? p.name) →
      (∀ p : Property, p.entry.printed = true →
        p ∉ [Property.password, .sshPrivateKeyPassphrase] →
        effective? a p.entry = effective? b p.entry) →
      printPublic Schema.standard a = printPublic Schema.standard b) ∧
    (a.getNonBlank? Property.host.name = b.getNonBlank? Property.host.name →
      (∀ p ∈ [Property.sshUser, .sshHost, .sshPrivateKeyFile, .sshStrictHostKeyChecking,
          .sshKnownHostsFile], effective? a p.entry = effective? b p.entry) →
      printTunnel Schema.standard a = printTunnel Schema.standard b) := by
  constructor
  · intro hparts hoptions
    refine printPublic_congr (part_congr_getNonBlank? (hparts _ (by simp)))
      (part_congr_getNonBlank? (hparts _ (by simp)))
      (part_congr_getNonBlank? (hparts _ (by simp))) fun e he hprinted ↦ ?_
    obtain ⟨p, rfl⟩ := Schema.mem_entries_standard.mp he
    exact deviation?_congr_effective?
      (hoptions p hprinted (not_mem_secrets_of_printed hprinted))
  · intro hhost hoptions
    refine printTunnel_congr (part_congr_getNonBlank? hhost) fun e he ↦ ?_
    rw [filterMap_find?_tunnelProperties] at he
    obtain ⟨p, hp, rfl⟩ := List.mem_map.mp he
    exact deviation?_congr_effective? (hoptions p hp)

/-- Maps with other entries in another order, and with other secrets, that are printed alike. -/
theorem printed_eq_of_other_secrets :
    let a := PropertyMap.ofList [("password", "p"), ("tls", " TRUE"), ("host", "h"),
      ("loginTimeoutSec", "soon"), ("w", "1")]
    let b := PropertyMap.ofList [("host", "h"), ("sshPrivateKeyPassphrase", "s"), ("tls", "true")]
    a.toList.map Prod.fst ≠ b.toList.map Prod.fst ∧
      printPublic Schema.standard a = printPublic Schema.standard b ∧
      printTunnel Schema.standard a = printTunnel Schema.standard b := by
  intro a b
  have hsame : ∀ p ∈ Property.all, p.entry.printed = true →
      a.get? p.name = b.get? p.name ∨ p = .tls ∨ p = .loginTimeout := by
    decide +kernel
  have hoptions : ∀ p : Property, p.entry.printed = true →
      effective? a p.entry = effective? b p.entry := by
    intro p hp
    rcases hsame p (Property.mem_all p) hp with hget | rfl | rfl
    · exact effective?_congr hget
    · decide +kernel
    · decide +kernel
  have hparts : ∀ p ∈ [Property.user, .host, .database],
      a.getNonBlank? p.name = b.getNonBlank? p.name := by
    decide +kernel
  have htunnel : ∀ p ∈ [Property.sshUser, .sshHost, .sshPrivateKeyFile,
      .sshStrictHostKeyChecking, .sshKnownHostsFile], p.entry.printed = true := by
    decide
  exact ⟨by decide +kernel, printed_eq_of_effective?.1 hparts fun p hp _ ↦ hoptions p hp,
    printed_eq_of_effective?.2 (hparts _ (by simp)) fun p hp ↦ hoptions p (htunnel p hp)⟩

end ConnectionConfig.ConnectionString
