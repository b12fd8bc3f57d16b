import ConnectionConfig.Proofs.ConnectionString.PublicForm
import ConnectionConfig.Proofs.PropertyMap.Views

/-!
# What reading the form for logs keeps

A map that is read back has the host, the user and the database of the map that was printed. The
options come back in their canonical form or not at all, which the readers that know their values
cannot tell apart.
-/

namespace ConnectionConfig.ConnectionString

/-- What is read back agrees with what was printed: it has the same host, user and database and no
password, looks the same to the readers of truth values, integers and keywords, describes a tunnel
just when the other does, and is printed in the same way. -/
structure ReadsBack (m back : PropertyMap) : Prop where
  host : back.host? = m.host?
  user : back.user? = m.user?
  database : back.database? = m.database?
  password : back.password? = none
  scalars : back.scalarView = m.scalarView
  tunnel : back.describesTunnel = m.describesTunnel
  printPublic : printPublic Schema.standard back = printPublic Schema.standard m

private theorem canonical?_default :
    ∀ p : Property, p.entry.printed = true →
      p.type.canonical? p.default = none ∨ p.type.canonical? p.default = some p.default := by
  have hall : ∀ p ∈ Property.all, p.entry.printed = true →
      p.type.canonical? p.default = none ∨ p.type.canonical? p.default = some p.default := by
    decide +kernel
  exact fun p ↦ hall p (Property.mem_all p)

private theorem value?_publicMap {α : Type} (m : PropertyMap) (parse : String → Option α)
    {p : Property} (hp : p.entry.printed = true) :
    (publicMap m).value? parse p = m.value? parse p := by
  have hraw : (publicMap m).raw? p = deviation? m p.entry :=
    get?_publicMap_option m (Schema.mem_entries_standard.mpr ⟨p, rfl⟩) hp
  have hdev : deviation? m p.entry = ((m.raw? p).bind p.type.canonical?).filter fun value ↦
      some value != p.type.canonical? p.default := rfl
  rw [PropertyMap.value?, PropertyMap.value?, hraw]
  cases hc : (m.raw? p).bind p.type.canonical? with
  | none =>
    rw [hdev, hc]
    rfl
  | some value =>
    rw [hc] at hdev
    -- A value that means the default is left out, and no value means the default as well.
    by_cases hd : some value = p.type.canonical? p.default
    · rw [hdev, Option.filter_some, if_neg (by simpa using hd)]
      rcases canonical?_default p hp with hn | hs
      · rw [hn] at hd
        cases hd
      · rw [hs, Option.some.injEq] at hd
        rw [hd]
        cases hparse : parse p.default <;> simp [hparse]
    · rw [Option.filter_some, if_pos (by simpa using hd)] at hdev
      have hself : p.type.canonical? value = some value := canonical?_of_deviation? hdev
      rw [hdev, Option.bind_some, hself]

private theorem isSome_getNonBlank?_publicMap (m : PropertyMap) {p : Property}
    (hp : p.entry.printed = true) (ht : p.entry.type = .text) (hd : p.entry.default = "") :
    ((publicMap m).getNonBlank? p.name).isSome = (m.getNonBlank? p.name).isSome := by
  have hraw : (publicMap m).get? p.name = deviation? m p.entry :=
    get?_publicMap_option m (Schema.mem_entries_standard.mpr ⟨p, rfl⟩) hp
  have hdefault : ValueType.canonical? .text "" = none := by decide
  rw [PropertyMap.getNonBlank?, PropertyMap.getNonBlank?, hraw, deviation?, ht, hd, hdefault]
  change _ = ((m.get? p.entry.name).filter _).isSome
  cases m.get? p.entry.name with
  | none => rfl
  | some raw =>
    have hsome := ValueType.isSome_canonical?_text raw
    cases hc : ValueType.canonical? .text raw with
    | none =>
      rw [hc, Option.isSome_none] at hsome
      simp [hc, ← hsome]
    | some value =>
      rw [hc, Option.isSome_some] at hsome
      simp [hc, ← hsome, ValueType.isBlank_canonical? hc]

/-- The form for logs of a map that fits and holds no blank values reads back. -/
theorem readsBack_publicMap {m : PropertyMap} (h : ∀ key, m.getNonBlank? key = m.get? key) :
    ReadsBack m (publicMap m) where
  host := (get?_publicMap_part m (by decide)).trans (h _)
  user := (get?_publicMap_part m (by decide)).trans (h _)
  database := (get?_publicMap_part m (by decide)).trans (h _)
  password := get?_publicMap_secret m (by decide) (by decide)
  scalars := PropertyMap.scalarView_congr fun parse _ hp ↦ value?_publicMap m parse hp
  tunnel := by
    rw [PropertyMap.describesTunnel, PropertyMap.describesTunnel]
    simp only [List.all_cons, List.all_nil,
      isSome_getNonBlank?_publicMap m (p := .sshUser) rfl rfl rfl,
      isSome_getNonBlank?_publicMap m (p := .sshHost) rfl rfl rfl,
      isSome_getNonBlank?_publicMap m (p := .sshPrivateKeyFile) rfl rfl rfl]
  printPublic := printPublic_publicMap m

end ConnectionConfig.ConnectionString
