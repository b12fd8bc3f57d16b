import ConnectionConfig.Proofs.ConnectionString.PublicForm
import ConnectionConfig.Proofs.ServerAddress
import ConnectionConfig.PropertyMap.View

/-!
# Plain hosts fit

Most hosts are names of letters, digits, hyphens, dots and low lines, with or without a port, or
several of them. Whatever else a map holds, its form for logs can be read back then.
-/

namespace ConnectionConfig.ConnectionString

open Uri (portText)

/-- A name of ASCII letters, digits, hyphens, dots and low lines. -/
def IsPlainName (cs : List Char) : Prop :=
  cs ≠ [] ∧ ∀ c ∈ cs, c.isAlphanum = true ∨ c ∈ "-._".toList

instance (cs : List Char) : Decidable (IsPlainName cs) :=
  decidable_of_iff (cs ≠ [] ∧ cs.all (fun c ↦ c.isAlphanum || "-._".toList.contains c) = true)
    (by simp [IsPlainName])

/-- A plain name, with a port in shortest decimal form or without one. -/
def IsPlainEntry (cs : List Char) : Prop :=
  ∃ name port, IsPlainName name ∧ cs = name ++ portText port

/-- One or more plain names with or without ports, separated by commas. -/
def IsPlainHosts (cs : List Char) : Prop :=
  ∃ entries, entries ≠ [] ∧ (∀ entry ∈ entries, IsPlainEntry entry) ∧
    cs = [','].intercalate entries

private theorem forall_plainName {p : Char → Prop}
    (h : ∀ n < 0x80, (Char.ofNat n).isAlphanum = true ∨ Char.ofNat n ∈ "-._".toList →
      p (Char.ofNat n)) {c : Char} (hc : c.isAlphanum = true ∨ c ∈ "-._".toList) : p c := by
  refine Text.forall_ascii (p := fun c ↦ c.isAlphanum = true ∨ c ∈ "-._".toList → p c) h ?_ hc
  rcases hc with ha | hm
  · exact Text.toNat_lt_of_isAlphanum ha
  · exact Text.forall_mem_of_all (p := fun c ↦ c.toNat < 0x80) (by decide) c hm

/-- A plain name is a name. -/
theorem isName_of_isPlainName {cs : List Char} (h : IsPlainName cs) : Uri.IsName cs where
  ne_nil := h.1
  not_escaped := fun c hc ↦
    forall_plainName (p := fun c ↦ Percent.isControl c = false) (by decide +kernel) (h.2 c hc)
  not_refused := fun c hc ↦
    forall_plainName (p := fun c ↦ Uri.isForbiddenInHost c = false) (by decide +kernel) (h.2 c hc)

/-- A plain name is an entry without a port. -/
theorem isPlainEntry_of_isPlainName {cs : List Char} (h : IsPlainName cs) : IsPlainEntry cs :=
  ⟨cs, none, h, (List.append_nil cs).symm⟩

/-- A plain name is a list of one host. -/
theorem isPlainHosts_of_isPlainName {cs : List Char} (h : IsPlainName cs) : IsPlainHosts cs :=
  ⟨[cs], by simp, fun entry he ↦ List.mem_singleton.mp he ▸ isPlainEntry_of_isPlainName h,
    List.intercalate_singleton.symm⟩

/-- A plain name with a port holds neither commas nor white space. -/
theorem mem_plainEntry {cs : List Char} (h : IsPlainEntry cs) :
    ∀ c ∈ cs, c ≠ ',' ∧ Text.isSpace c = false := by
  obtain ⟨name, port, hn, rfl⟩ := h
  intro c hc
  rcases List.mem_append.mp hc with hm | hp
  · exact forall_plainName (p := fun c ↦ c ≠ ',' ∧ Text.isSpace c = false)
      (by decide +kernel) (hn.2 c hm)
  · cases port with
    | none => cases hp
    | some port =>
      rcases List.mem_cons.mp hp with rfl | hd
      · decide
      · have hdigit : c.isDigit = true := Uri.isDigit_of_mem_ofUInt16 c hd
        exact Text.forall_ascii
          (p := fun c ↦ c.isDigit = true → c ≠ ',' ∧ Text.isSpace c = false)
          (by decide +kernel) (Text.toNat_lt_of_isDigit hdigit) hdigit

private theorem isSome_parse? {cs : List Char} (h : IsPlainEntry cs) :
    (ServerAddress.parse? (String.ofList cs)).isSome = true := by
  obtain ⟨name, port, hn, rfl⟩ := h
  rw [ServerAddress.parse?_of_isName (isName_of_isPlainName hn)]
  rfl

private theorem isHostWithPort_of_isPlainEntry {cs : List Char} (h : IsPlainEntry cs) :
    Uri.IsHostWithPort cs := by
  obtain ⟨name, port, hn, rfl⟩ := h
  exact ⟨name, port, .inl (isName_of_isPlainName hn), rfl⟩

/-- A plain name with a port does not run into other parts. -/
theorem isHostChar_of_mem_plainEntry {cs : List Char} (h : IsPlainEntry cs) :
    ∀ c ∈ cs, Uri.isHostChar c = true := by
  obtain ⟨name, port, hn, rfl⟩ := h
  exact Uri.isHostChar_of_mem (.inl (isName_of_isPlainName hn)) port

/-- Plain hosts fit into an authority. -/
theorem fitsAuthority_of_isPlainHosts {cs : List Char} (h : IsPlainHosts cs) :
    FitsAuthority cs := by
  obtain ⟨entries, hne, he, rfl⟩ := h
  match entries, hne, he with
  | [entry], _, he =>
    have hentry := he entry List.mem_cons_self
    rw [List.intercalate_singleton]
    exact .inr ⟨fun hm ↦ (mem_plainEntry hentry ',' hm).1 rfl,
      isHostWithPort_of_isPlainEntry hentry⟩
  | first :: second :: rest, hne, he =>
    refine .inl ⟨?_, ?_, ?_⟩
    · rw [List.intercalate_cons_cons]
      simp
    · intro c hc
      rcases Text.mem_intercalate hc with rfl | ⟨entry, hm, hc⟩
      · decide
      · have hspec := Uri.isHostChar_spec (isHostChar_of_mem_plainEntry (he entry hm) c hc)
        exact ⟨hspec.1, hspec.2.1⟩
    · intro entry hm
      rw [ServerAddress.entries_intercalate hne fun entry hm ↦ mem_plainEntry (he entry hm)] at hm
      obtain ⟨cs, hcs, rfl⟩ := List.mem_map.mp hm
      exact isSome_parse? (he cs hcs)

/-- Plain hosts are not blank. -/
theorem isBlank_of_isPlainHosts {host : String} (h : IsPlainHosts host.toList) :
    Text.isBlank host = false := by
  obtain ⟨entries, hne, he, hh⟩ := h
  obtain ⟨entry, rest, rfl⟩ := List.exists_cons_of_ne_nil hne
  obtain ⟨name, port, hn, rfl⟩ := he entry List.mem_cons_self
  obtain ⟨c, name, rfl⟩ := List.exists_cons_of_ne_nil hn.1
  refine Text.isBlank_eq_false_of_mem (c := c) ?_
    (mem_plainEntry (he _ List.mem_cons_self) c List.mem_cons_self).2
  rw [hh]
  cases rest with
  | nil => simp
  | cons next rest => simp

private theorem get?_of_getNonBlank? {m : PropertyMap} {key value : String}
    (h : m.getNonBlank? key = some value) : m.get? key = some value :=
  (Option.filter_eq_some_iff.mp h).1

/-- A map with plain hosts fits, and so does one without host and user, unless the database is a dot
segment. -/
theorem fitsPublicForm_of_isPlainHosts {m : PropertyMap}
    (hhost : (m.getNonBlank? Property.host.name = none ∧
      m.getNonBlank? Property.user.name = none) ∨
      ∃ host, m.host? = some host ∧ IsPlainHosts host.toList)
    (hdot : m.database? ≠ some ".") (hdots : m.database? ≠ some "..") : FitsPublicForm m := by
  refine ⟨?_, ?_, ?_, ?_⟩
  · intro huser
    rcases hhost with ⟨-, hu⟩ | ⟨host, hh, hplain⟩
    · rw [part, hu] at huser
      cases huser
    · have hsome : m.getNonBlank? Property.host.name = some host :=
        Option.filter_eq_some_iff.mpr ⟨hh, by rw [isBlank_of_isPlainHosts hplain]; rfl⟩
      rw [part, hsome]
      rfl
  · intro hosts hp
    have hg := part_eq_some_iff.mp hp
    rcases hhost with ⟨hn, -⟩ | ⟨host, hh, hplain⟩
    · rw [hn] at hg
      cases hg
    · have he : m.host? = some (String.ofList hosts) := get?_of_getNonBlank? hg
      rw [hh, Option.some.injEq] at he
      rw [he, String.toList_ofList] at hplain
      exact fitsAuthority_of_isPlainHosts hplain
  · exact fun hp ↦ hdot (get?_of_getNonBlank? (part_eq_some_iff.mp hp))
  · exact fun hp ↦ hdots (get?_of_getNonBlank? (part_eq_some_iff.mp hp))

/-- The form for logs of a map with plain hosts, or with neither host nor user, reads back. User,
host and database come back as they were unless they were blank; every printed property comes back
in canonical form if that differs from the default, and has no value otherwise; nothing else comes
back, in particular neither password nor passphrase; and what comes back is printed in the same
way. -/
theorem read_printPublic_of_isPlainHosts {m : PropertyMap}
    (hhost : (m.getNonBlank? Property.host.name = none ∧
      m.getNonBlank? Property.user.name = none) ∨
      ∃ host, m.host? = some host ∧ IsPlainHosts host.toList)
    (hdot : m.database? ≠ some ".") (hdots : m.database? ≠ some "..") :
    ∃ back, read Schema.standard scheme none PropertyMap.empty
        (scheme ++ printPublic Schema.standard m) = .ok back ∧
      (∀ p ∈ [Property.user, .host, .database], back.raw? p = m.getNonBlank? p.name) ∧
      (∀ p : Property, p.entry.printed = true → back.raw? p =
        ((m.raw? p).bind p.type.canonical?).filter
          fun value ↦ some value != p.type.canonical? p.default) ∧
      (∀ key, back.contains key = true → ∃ p : Property, key = p.name ∧
        (p ∈ [Property.user, .host, .database] ∨ p.entry.printed = true)) ∧
      back.password? = none ∧ back.sshPrivateKeyPassphrase? = none ∧
      printPublic Schema.standard back = printPublic Schema.standard m := by
  refine ⟨publicMap m,
    read_scheme_printPublic (fitsPublicForm_of_isPlainHosts hhost hdot hdots) scheme _,
    fun p hp ↦ get?_publicMap_part m hp, fun p hp ↦ ?_, fun key hc ↦ ?_,
    get?_publicMap_secret m (by decide) (by decide),
    get?_publicMap_secret m (by decide) (by decide), printPublic_publicMap m⟩
  · exact get?_publicMap_option m (Schema.mem_entries_standard.mpr ⟨p, rfl⟩) hp
  · by_contra hno
    have hnone : (publicMap m).get? key = none := by
      apply get?_publicMap_other
      intro p hk
      exact ⟨fun hp ↦ hno ⟨p, hk, .inl hp⟩, Bool.eq_false_iff.mpr fun hp ↦ hno ⟨p, hk, .inr hp⟩⟩
    rw [← PropertyMap.get?_isSome_iff, hnone] at hc
    cases hc

/-- Two hosts, one with a port, and parts and options that have to be escaped. -/
theorem read_printPublic_of_two_hosts :
    let m := PropertyMap.ofList
      [("tls", " TRUE "), ("user", "ä@b:c"), ("host", "h_1:27017,h-2"), ("password", "p"),
        ("database", "d/b?"), ("retryReads", "True"), ("appName", "a&b=c"), ("other", "x")]
    ∃ back, read Schema.standard scheme none PropertyMap.empty
        (scheme ++ printPublic Schema.standard m) = .ok back ∧
      back.user? = some "ä@b:c" ∧ back.host? = some "h_1:27017,h-2" ∧
      back.database? = some "d/b?" ∧ back.get? "tls" = some "true" ∧
      back.get? "retryReads" = none ∧ back.get? "appName" = some "a&b=c" ∧
      back.password? = none := by
  intro m
  have hplain : IsPlainHosts "h_1:27017,h-2".toList :=
    ⟨["h_1:27017".toList, "h-2".toList], by simp, by
      intro entry he
      simp only [List.mem_cons, List.not_mem_nil, or_false] at he
      rcases he with rfl | rfl
      · exact ⟨"h_1".toList, some 27017, by decide +kernel, by decide +kernel⟩
      · exact ⟨"h-2".toList, none, by decide +kernel, by decide +kernel⟩, by decide +kernel⟩
  obtain ⟨back, hread, hparts, hoptions, -, hpassword, -, -⟩ := read_printPublic_of_isPlainHosts
    (m := m) (.inr ⟨_, by decide +kernel, hplain⟩) (by decide +kernel) (by decide +kernel)
  exact ⟨back, hread, (hparts .user (by decide)).trans (by decide +kernel),
    (hparts .host (by decide)).trans (by decide +kernel),
    (hparts .database (by decide)).trans (by decide +kernel),
    (hoptions .tls (by decide)).trans (by decide +kernel),
    (hoptions .retryReads (by decide)).trans (by decide +kernel),
    (hoptions .applicationName (by decide)).trans (by decide +kernel), hpassword⟩

end ConnectionConfig.ConnectionString
