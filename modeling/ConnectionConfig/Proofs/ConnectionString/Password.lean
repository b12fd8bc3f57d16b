import ConnectionConfig.Proofs.ConnectionString.Printing
import ConnectionConfig.Proofs.ConnectionString.Stages
import ConnectionConfig.Proofs.Property.Entries
import ConnectionConfig.Proofs.PropertyMap.Views
import ConnectionConfig.Proofs.Uri.Escapes

/-!
# Where the password goes

Two connection strings that differ in the password only are read side by side. Hosts, user, path and
query are the same at every stage: the at sign after the password is one that neither split of the
authority can miss, whatever follows it. What is read differs under the key of the password alone.
-/

namespace ConnectionConfig

namespace Uri

/-- A password as it stands in a URI: no character ends the authority, and none is ignored. -/
structure IsPassword (password : List Char) : Prop where
  ne_nil : password ≠ []
  not_ends : ∀ c ∈ password, endsAuthority c = false
  not_ignored : ∀ c ∈ password, isIgnored c = false

instance (password : List Char) : Decidable (IsPassword password) :=
  decidable_of_iff (password ≠ [] ∧ password.all (fun c ↦ !endsAuthority c) = true ∧
    password.all (fun c ↦ !isIgnored c) = true)
    ⟨fun h ↦ ⟨h.1, by simpa using h.2.1, by simpa using h.2.2⟩,
      fun h ↦ ⟨h.1, by simpa using h.2, by simpa using h.3⟩⟩

private theorem readUserInfo_password {user password : List Char} (hu : ':' ∉ user)
    (hp : password ≠ []) :
    readUserInfo (user ++ ':' :: password) =
      (Percent.encode Percent.inUserInfo user,
        some (Percent.encode Percent.inUserInfo password)) := by
  rw [readUserInfo, Text.cutFirst?_append_cons password hu]
  cases password with
  | nil => exact absurd rfl hp
  | cons c password => rfl

private theorem ofAuthority_of_password {user password hosts rest : List Char} (hu : ':' ∉ user)
    (hp : password ≠ []) :
    ofAuthority (some (user ++ ':' :: password)) hosts rest =
      match readHostAndPort hosts with
      | .error e => .error e
      | .ok (host, port, afterPort) =>
        if host.isEmpty then .error .emptyHost
        else .ok {
          user := Percent.encode Percent.inUserInfo user
          password := some (Percent.encode Percent.inUserInfo password)
          host, port
          path := readPathAfterAuthority ((afterPort ++ rest).takeWhile fun c ↦ !endsPath c)
          query := readQuery ((afterPort ++ rest).dropWhile fun c ↦ !endsPath c) } := by
  have hne : (some (user ++ ':' :: password) == some []) = false := by simp
  rw [ofAuthority, hne]
  cases readHostAndPort hosts with
  | error e => rfl
  | ok parts =>
    simp only [Option.getD_some, readUserInfo_password hu hp, Option.isSome_some, Bool.or_true,
      Bool.and_true, Bool.false_and, Bool.false_eq_true, if_false]

private theorem ofAuthority_password {user password hosts rest : List Char} {uri : Uri}
    (hu : ':' ∉ user) (hp : password ≠ [])
    (h : ofAuthority (some (user ++ ':' :: password)) hosts rest = .ok uri) :
    uri.password = some (Percent.encode Percent.inUserInfo password) ∧
      ∀ other, other ≠ [] → ofAuthority (some (user ++ ':' :: other)) hosts rest =
        .ok { uri with password := some (Percent.encode Percent.inUserInfo other) } := by
  rw [ofAuthority_of_password hu hp] at h
  split at h
  · cases h
  · next host port afterPort hr =>
    split at h
    · cases h
    · next hh =>
      cases h
      refine ⟨rfl, fun other ho ↦ ?_⟩
      rw [ofAuthority_of_password hu ho, hr]
      exact if_neg hh

/-- Text with a password before an at sign. -/
def withPassword (user password tail : List Char) : List Char :=
  '/' :: '/' :: (user ++ ':' :: password ++ '@' :: tail)

private theorem filter_eq_self {password : List Char} (h : IsPassword password) :
    password.filter (fun c ↦ !isIgnored c) = password :=
  List.filter_eq_self.mpr fun c hc ↦ by simp [h.not_ignored c hc]

private theorem clean_withPassword (user password tail : List Char) :
    clean (withPassword user password tail) =
      withPassword (user.filter fun c ↦ !isIgnored c) (password.filter fun c ↦ !isIgnored c)
        (clean tail) := by
  rw [withPassword, ← List.cons_append, ← List.cons_append, clean_append_cons _ _ (by decide),
    withPassword, List.filter_cons_of_pos (by decide), List.filter_cons_of_pos (by decide),
    List.filter_append, List.filter_cons_of_pos (by decide)]
  rfl

/-- Nothing in user name and password ends the authority. -/
theorem not_ends_withPassword {user password : List Char}
    (hu : ∀ c ∈ user, endsAuthority c = false) (hp : ∀ c ∈ password, endsAuthority c = false) :
    ∀ c ∈ user ++ ':' :: password, endsAuthority c = false := by
  intro c hc
  rcases List.mem_append.mp hc with hm | hm
  · exact hu c hm
  · rcases List.mem_cons.mp hm with rfl | hm
    · rfl
    · exact hp c hm

/-- What follows the password is taken apart in one way for all passwords that do not end the
authority. At signs in it add to the password. -/
theorem exists_read_withPassword_eq {user : List Char} (tail : List Char)
    (hu : ∀ c ∈ user, endsAuthority c = false) :
    ∃ late hosts rest, (∀ c ∈ late.head?, c = '@') ∧
      ∀ password, (∀ c ∈ password, endsAuthority c = false) →
        read (withPassword user password tail) =
          ofAuthority (some ((user.filter fun c ↦ !isIgnored c) ++
            ':' :: ((password.filter fun c ↦ !isIgnored c) ++ late))) hosts rest := by
  obtain ⟨userInfo, hosts, rest, ha, ht⟩ := exists_isAuthority (clean tail)
  refine ⟨(userInfo.map ('@' :: ·)).getD [], hosts, rest, ?_, fun password hp ↦ ?_⟩
  · intro c hc
    cases userInfo with
    | none => cases hc
    | some u => exact (Option.some.inj hc).symm
  · have hends := not_ends_withPassword
      (fun c hc ↦ hu c (List.mem_filter.mp hc).1 : ∀ c ∈ user.filter fun c ↦ !isIgnored c, _)
      (fun c hc ↦ hp c (List.mem_filter.mp hc).1 : ∀ c ∈ password.filter fun c ↦ !isIgnored c, _)
    rw [read, clean_withPassword, ht, withPassword]
    show readAuthority (_ ++ ':' :: _ ++ '@' :: withUserInfo userInfo (hosts ++ rest)) = _
    rw [append_cons_withUserInfo, (ha.prepend hends).readAuthority_eq, List.append_assoc,
      List.cons_append]

/-- The URI gives the password and what the at signs after it add, and for another password it gives
the same otherwise. -/
theorem read_withPassword {user password tail : List Char} {uri : Uri}
    (hu : ∀ c ∈ user, c ≠ ':' ∧ endsAuthority c = false) (hp : IsPassword password)
    (h : read (withPassword user password tail) = .ok uri) :
    ∃ late, (∀ c ∈ late.head?, c = '@') ∧
      uri.password = some (Percent.encode Percent.inUserInfo (password ++ late)) ∧
      ∀ other, IsPassword other → read (withPassword user other tail) =
        .ok { uri with password := some (Percent.encode Percent.inUserInfo (other ++ late)) } := by
  obtain ⟨late, hosts, rest, hlate, hread⟩ :=
    exists_read_withPassword_eq tail fun c hc ↦ (hu c hc).2
  have hcolon : ':' ∉ user.filter fun c ↦ !isIgnored c := fun hc ↦
    (hu _ (List.mem_filter.mp hc).1).1 rfl
  have hne : ∀ word, IsPassword word → word ++ late ≠ [] := by
    intro word hw he
    exact hw.ne_nil (List.append_eq_nil_iff.mp he).1
  rw [hread password hp.not_ends, filter_eq_self hp] at h
  obtain ⟨hpass, hother⟩ := ofAuthority_password hcolon (hne password hp) h
  refine ⟨late, hlate, hpass, fun other ho ↦ ?_⟩
  rw [hread other ho.not_ends, filter_eq_self ho]
  exact hother _ (hne other ho)

end Uri

namespace ConnectionString

open Uri (withPassword IsPassword IsAuthority endsAuthority)

/-- Hosts are separated in one way behind all passwords that do not end the authority. -/
theorem exists_separateHosts_withPassword_eq {user : List Char} (tail : List Char)
    (hu : ∀ c ∈ user, endsAuthority c = false) :
    ∃ outcome : Except ConnectionError (List Char × Option (List Char)),
      ∀ password, (∀ c ∈ password, endsAuthority c = false) →
        separateHosts (withPassword user password tail) = outcome.map fun (tail', hostList) ↦
          (withPassword user password tail', hostList) := by
  obtain ⟨userInfo, hosts, rest, ha, rfl⟩ := Uri.exists_isAuthority tail
  have hauth : ∀ word, (∀ c ∈ word, endsAuthority c = false) → IsAuthority
      (some (user ++ ':' :: word ++ (userInfo.map ('@' :: ·)).getD [])) hosts rest :=
    fun word hw ↦ ha.prepend (Uri.not_ends_withPassword hu hw)
  simp only [withPassword, Uri.append_cons_withUserInfo]
  by_cases hc : ',' ∈ hosts
  · refine ⟨((ServerAddress.entries hosts).mapM ServerAddress.parse).map fun _ ↦
      (Uri.withUserInfo userInfo (standInHost ++ rest), some hosts), fun password hp ↦ ?_⟩
    rw [separateHosts_of_mem (hauth password hp) hc]
    cases (ServerAddress.entries hosts).mapM ServerAddress.parse with
    | error e => rfl
    | ok addresses => simp only [Except.map, Uri.append_cons_withUserInfo]
  · refine ⟨.ok (Uri.withUserInfo userInfo (hosts ++ rest), none), fun password hp ↦ ?_⟩
    rw [separateHosts_of_not_mem (hauth password hp) hc]
    simp only [Except.map, Uri.append_cons_withUserInfo]

private theorem separateHosts_withPassword {user password tail : List Char} {text : List Char}
    {hostList : Option (List Char)} (hu : ∀ c ∈ user, endsAuthority c = false)
    (hp : IsPassword password)
    (h : separateHosts (withPassword user password tail) = .ok (text, hostList)) :
    ∃ tail', text = withPassword user password tail' ∧ ∀ other, IsPassword other →
      separateHosts (withPassword user other tail) =
        .ok (withPassword user other tail', hostList) := by
  obtain ⟨outcome, hsep⟩ := exists_separateHosts_withPassword_eq tail hu
  rw [hsep password hp.not_ends] at h
  cases outcome with
  | error e => cases h
  | ok parts =>
    cases h
    exact ⟨parts.1, rfl, fun other ho ↦ hsep other ho.not_ends⟩

private theorem startsFresh_decode {late : List Char} (h : ∀ c ∈ late.head?, c = '@') :
    Utf8.StartsFresh (Percent.decode late) := by
  cases late with
  | nil => exact fun b hb ↦ nomatch hb
  | cons c late =>
    rw [h c rfl, Percent.decode_cons_of_ne (by decide)]
    intro b hb
    cases hb
    decide

private theorem isSome_decode?_password {late : List Char} (password : List Char)
    (h : ∀ c ∈ late.head?, c = '@') :
    (Utf8.decode? (Percent.decode
        (Percent.encode Percent.inUserInfo (password ++ late)))).isSome =
      ((Utf8.decode? (Percent.decode password)).isSome &&
        (Utf8.decode? (Percent.decode late)).isSome) := by
  -- What follows starts with an at sign, so that no character of the password runs on into it.
  rw [Percent.decode_encode_of_keepsEscapes Percent.keepsEscapes_inUserInfo,
    Percent.decode_append password, Utf8.isSome_decode?_append _ (startsFresh_decode h)]
  intro c hc
  rw [h c hc]
  rfl

private theorem readPart_ok_of_isSome (property : Property) {part : List Char}
    (h : (Utf8.decode? (Percent.decode part)).isSome = true) :
    ∃ text, readPart property part = .ok text := by
  obtain ⟨cs, hcs⟩ := Option.isSome_iff_exists.mp h
  exact ⟨String.ofList cs, readPart_eq_ok_iff.mpr (by rw [hcs, String.toList_ofList])⟩

private theorem mapM_password_eq_ok_iff {part : List Char} {texts : List String} :
    (some part).toList.mapM (readPart .password) = .ok texts ↔
      ∃ text, readPart .password part = .ok text ∧ texts = [text] := by
  rw [Option.toList_some, mapM_eq_ok_iff]
  constructor
  · intro h
    cases h with
    | cons htext hrest =>
      cases hrest
      exact ⟨_, htext, rfl⟩
  · rintro ⟨text, htext, rfl⟩
    exact .cons htext .nil

/-! ## Two passwords -/

/-- The text of a password: it can stand in a URI, and its escapes give well-formed UTF-8. -/
structure IsPasswordText (password : String) : Prop where
  chars : IsPassword password.toList
  valid : (Utf8.decode? (Percent.decode password.toList)).isSome = true

instance (password : String) : Decidable (IsPasswordText password) :=
  decidable_of_iff (IsPassword password.toList ∧
    (Utf8.decode? (Percent.decode password.toList)).isSome = true)
    ⟨fun h ↦ ⟨h.1, h.2⟩, fun h ↦ ⟨h.1, h.2⟩⟩

private theorem filter_entries (s : Stages) :
    s.entries.filter (fun e ↦ e.1 != Property.password.name) =
      (Property.host.name, s.host) :: (Property.user.name, s.user) ::
        (Property.database.name, s.database) ::
        (s.query ++ s.options).filter fun e ↦ e.1 != Property.password.name := by
  have hpass : (s.password.map fun p ↦ (Property.password.name, p)).filter
      (fun e ↦ e.1 != Property.password.name) = [] := by
    simp [List.filter_eq_nil_iff]
  have hother : ∀ p : Property, p ≠ .password → (p.name != Property.password.name) = true :=
    fun p hp ↦ bne_iff_ne.mpr (mt Property.name_inj.mp hp)
  simp only [Stages.entries, List.cons_append, List.append_assoc, List.filter_cons,
    List.filter_append, hpass, hother .host (by decide), hother .user (by decide),
    hother .database (by decide), if_true, List.nil_append]

private theorem Stages.Of.other_password {schema : Schema} {options : Option String}
    {user tail : List Char} {p q : String} {s : Stages}
    (hu : ∀ c ∈ user, c ≠ ':' ∧ endsAuthority c = false) (hp : IsPasswordText p)
    (hq : IsPasswordText q) (h : s.Of schema options (withPassword user p.toList tail)) :
    ∃ s' : Stages, s'.Of schema options (withPassword user q.toList tail) ∧
      s.entries.filter (fun e ↦ e.1 != Property.password.name) =
        s'.entries.filter fun e ↦ e.1 != Property.password.name := by
  obtain ⟨tail', htext, hhosts⟩ :=
    separateHosts_withPassword (fun c hc ↦ (hu c hc).2) hp.chars h.hosts
  have huri := h.uri
  rw [htext] at huri
  obtain ⟨late, hlate, hpass, hread⟩ := Uri.read_withPassword hu hp.chars huri
  -- What was added to the one password is well-formed on its own, and so it is after the other.
  have hwell : (Utf8.decode? (Percent.decode late)).isSome = true := by
    have hmap := h.password
    rw [hpass, mapM_password_eq_ok_iff] at hmap
    obtain ⟨text, ht, -⟩ := hmap
    have hsome := isSome_decode?_password p.toList hlate
    rw [readPart_eq_ok_iff.mp ht, Option.isSome_some] at hsome
    exact (Bool.and_eq_true_iff.mp hsome.symm).2
  have hother : (Utf8.decode? (Percent.decode
      (Percent.encode Percent.inUserInfo (q.toList ++ late)))).isSome = true := by
    rw [isSome_decode?_password q.toList hlate, hq.valid, hwell]
    rfl
  obtain ⟨text, ht⟩ := readPart_ok_of_isSome .password hother
  let uri : Uri :=
    { s.uri with password := some (Percent.encode Percent.inUserInfo (q.toList ++ late)) }
  refine ⟨{ s with uriText := withPassword user q.toList tail', uri, password := [text] },
    ⟨hhosts _ hq.chars, hread _ hq.chars, h.user, mapM_password_eq_ok_iff.mpr ⟨text, ht, rfl⟩,
      h.database, h.query, h.options⟩, ?_⟩
  rw [filter_entries, filter_entries]
  rfl

/-- A password reaches nothing but its own entry. If a connection string is read, so is the one with
another password, and without the entry for the password both give the same entries in the same
order; so both are printed alike, and look alike to every reader but the one for the password. -/
theorem read_of_other_password {schema : Schema} {scheme : String} {options : Option String}
    {seed m : PropertyMap} {user tail p q : String}
    (hu : ∀ c ∈ user.toList, c ≠ ':' ∧ endsAuthority c = false) (hp : IsPasswordText p)
    (hq : IsPasswordText q)
    (h : read schema scheme options seed (scheme ++ ("//" ++ user ++ ":" ++ p ++ "@" ++ tail)) =
      .ok m) :
    ∃ m', read schema scheme options seed
        (scheme ++ ("//" ++ user ++ ":" ++ q ++ "@" ++ tail)) = .ok m' ∧
      (m.erase Property.password.name).toList = (m'.erase Property.password.name).toList ∧
      printPublic Schema.standard m = printPublic Schema.standard m' ∧
      printTunnel Schema.standard m = printTunnel Schema.standard m' ∧
      m.openView = m'.openView := by
  have htext : ∀ word, ("//" ++ user ++ ":" ++ word ++ "@" ++ tail).toList =
      withPassword user.toList word.toList tail.toList := by
    intro word
    simp [withPassword]
  obtain ⟨s, hs, rfl⟩ := (read_scheme_append_eq_ok_iff (htext p)).mp h
  obtain ⟨s', hs', he⟩ := hs.other_password hu hp hq
  have herase : (seed.offerAll s.entries).erase Property.password.name =
      (seed.offerAll s'.entries).erase Property.password.name := by
    rw [PropertyMap.erase_offerAll, PropertyMap.erase_offerAll, he]
  have hget : ∀ key, key ≠ Property.password.name →
      (seed.offerAll s.entries).get? key = (seed.offerAll s'.entries).get? key := by
    intro key hk
    have := congrArg (·.get? key) herase
    simpa [PropertyMap.get?_erase, hk] using this
  refine ⟨_, (read_scheme_append_eq_ok_iff (htext q)).mpr ⟨s', hs', rfl⟩,
    congrArg PropertyMap.toList herase, printPublic_of_erase_password hget,
    printTunnel_of_erase_password hget, PropertyMap.openView_congr fun p hp ↦
      hget _ (mt Property.name_inj.mp hp)⟩

/-- A further at sign, a list of hosts and a password in the query change nothing about it. -/
theorem read_of_other_password_hostList :
    let text := fun password : String ↦ scheme ++
      ("//" ++ "ann" ++ ":" ++ password ++ "@" ++ "x@h1:1,h2/db?password=z&tls=true")
    ∃ m m', read Schema.standard scheme none PropertyMap.empty (text "a:%C3%A9") = .ok m ∧
      read Schema.standard scheme none PropertyMap.empty (text "b") = .ok m' ∧
      m.openView = m'.openView := by
  intro text
  have hok :
      (read Schema.standard scheme none PropertyMap.empty (text "a:%C3%A9")).isOk = true := by
    decide +kernel
  cases h : read Schema.standard scheme none PropertyMap.empty (text "a:%C3%A9") with
  | error e =>
    rw [h] at hok
    cases hok
  | ok m =>
    obtain ⟨m', h', -, -, -, hv⟩ := read_of_other_password (q := "b")
      (Text.forall_mem_of_all (by decide)) (by decide +kernel) (by decide +kernel) h
    exact ⟨m, m', rfl, h', hv⟩

end ConnectionString

end ConnectionConfig
