import ConnectionConfig.Proofs.ConnectionString.Options
import ConnectionConfig.Proofs.ConnectionString.Printing
import ConnectionConfig.Proofs.ConnectionString.Stages
import ConnectionConfig.Proofs.Property.Entries
import ConnectionConfig.Proofs.Uri.Parts
import ConnectionConfig.Proofs.Uri.Segments

/-!
# Reading the form for logs back

The form for logs puts the host down as it is, and escapes everything else. What is escaped reads
back whatever it is, but for a database of one dot or two; a host reads back if it is one that reads
as itself, or a list of addresses.
-/

namespace ConnectionConfig.ConnectionString

open Uri (withUserInfo IsAuthority IsHostWithPort portText isHostChar endsAuthority endsPath)
open Percent (encode inComponent isPlain)

/-- The user information of the form. -/
def userInfo? (m : PropertyMap) : Option (List Char) := (part m .user).map (encode inComponent)

/-- The host of the form; empty if there is none. -/
def hostPart (m : PropertyMap) : List Char := (part m .host).getD []

/-- The database of the form; empty if there is none. -/
def databasePart (m : PropertyMap) : List Char := (part m .database).getD []

/-- The options of the form. -/
def publicOptions (m : PropertyMap) : List (String × String) :=
  deviations m (Schema.standard.entries.filter SchemaEntry.printed)

/-- What follows the path of the form. -/
def publicQuery (m : PropertyMap) : List Char :=
  if publicOptions m = [] then [] else '?' :: queryText (publicOptions m)

/-- What follows the authority of the form. -/
def publicRest (m : PropertyMap) : List Char :=
  '/' :: encode inComponent (databasePart m) ++ publicQuery m

/-- The form is put together from user information, host and the rest. -/
theorem toList_printPublic (m : PropertyMap) :
    (printPublic Schema.standard m).toList =
      '/' :: '/' :: withUserInfo (userInfo? m) (hostPart m ++ publicRest m) := by
  rw [printPublic, String.toList_ofList, printOptions_eq, publicRest, publicQuery, publicOptions,
    userInfo?, hostPart, databasePart]
  cases part m .user <;> simp [withUserInfo]

private theorem isPlain_of_mem_userInfo? {m : PropertyMap} :
    ∀ u ∈ userInfo? m, ∀ c ∈ u, isPlain c = true := by
  intro u hu
  obtain ⟨user, -, rfl⟩ := Option.map_eq_some_iff.mp hu
  exact Percent.isPlain_of_mem_encode

/-- The keys of the options hold letters and digits only. -/
theorem isPlainKey_of_mem_publicOptions {m : PropertyMap} :
    ∀ pair ∈ publicOptions m, IsPlainKey pair.1 := by
  intro pair hp
  obtain ⟨e, he, hv⟩ := List.mem_filterMap.mp hp
  obtain ⟨value, -, rfl⟩ := Option.map_eq_some_iff.mp hv
  exact Schema.isAlphanum_of_mem_name (List.mem_filter.mp he).1

/-- The query of the form runs into nothing. -/
theorem isQueryChar_of_mem_query {m : PropertyMap} :
    ∀ c ∈ queryText (publicOptions m), isQueryChar c = true :=
  isQueryChar_of_mem_queryText isPlainKey_of_mem_publicOptions

/-- The query of the form; there is none without options. -/
def publicQuery? (m : PropertyMap) : Option (List Char) :=
  if publicOptions m = [] then none else some (queryText (publicOptions m))

/-- The parts that the form is put together from. -/
def publicParts (m : PropertyMap) : Uri.Parts where
  userInfo := userInfo? m
  segment := encode inComponent (databasePart m)
  query := publicQuery? m
  userInfo_spec := fun u hu c hc ↦
    have hplain := Uri.of_isPlain (isPlain_of_mem_userInfo? u hu c hc)
    ⟨hplain.1, hplain.2.2⟩
  segment_spec := fun c hc ↦ (Uri.of_isPlain (Percent.isPlain_of_mem_encode c hc)).2
  query_spec := not_inQuery_of_mem_escapedQuery? escapesValues_encodeForm
    isPlainKey_of_mem_publicOptions

/-- The query of the form is that of its parts. -/
theorem markedQuery_publicParts (m : PropertyMap) :
    (publicParts m).markedQuery = publicQuery m := by
  show ((publicQuery? m).map ('?' :: ·)).getD [] = publicQuery m
  rw [publicQuery?, publicQuery]
  split <;> rfl

/-- What follows the authority is that of the parts. -/
theorem rest_publicParts (m : PropertyMap) : (publicParts m).rest = publicRest m := by
  rw [Uri.Parts.rest, markedQuery_publicParts, publicRest, publicParts]

/-- The parts are found again if the host does not run into them. -/
theorem isAuthority_public (m : PropertyMap) {hosts : List Char}
    (h : ∀ c ∈ hosts, c ≠ '@' ∧ endsAuthority c = false) :
    IsAuthority (userInfo? m) hosts (publicRest m) :=
  rest_publicParts m ▸ (publicParts m).isAuthority h

/-- What follows the path of the form is its query. -/
theorem dropWhile_publicRest (m : PropertyMap) :
    (publicRest m).dropWhile (fun c ↦ !endsPath c) = publicQuery m := by
  rw [← rest_publicParts, Uri.Parts.dropWhile_rest, markedQuery_publicParts]

/-- The query of the form is found after the path. -/
theorem readQuery_publicQuery (m : PropertyMap) :
    Uri.readQuery (publicQuery m) = publicQuery? m := by
  rw [← markedQuery_publicParts, Uri.Parts.readQuery_markedQuery, publicParts]

/-- What follows the authority holds no blanks or controls. -/
theorem lt_of_mem_publicRest (m : PropertyMap) : ∀ c ∈ publicRest m, 0x20 < c.toNat :=
  rest_publicParts m ▸ (publicParts m).lt_of_mem_rest

/-- The form is clean if the host is. -/
theorem clean_public (m : PropertyMap) {text : List Char}
    (h : ∀ c ∈ text, isHostChar c = true) :
    Uri.clean ('/' :: '/' :: withUserInfo (userInfo? m) (text ++ publicRest m)) =
      '/' :: '/' :: withUserInfo (userInfo? m) (text ++ publicRest m) := by
  rw [← rest_publicParts]
  exact (publicParts m).clean_text h

/-- The user information is a user name without password. -/
theorem readUserInfo_public (m : PropertyMap) :
    Uri.readUserInfo ((userInfo? m).getD []) = ((userInfo? m).getD [], none) := by
  cases hu : userInfo? m with
  | none => rfl
  | some u =>
    have hplain := isPlain_of_mem_userInfo? u hu
    have hcolon : ':' ∉ u := fun hc ↦ absurd (hplain _ hc) (by decide)
    rw [Option.getD_some, Uri.readUserInfo, Text.cutFirst?_eq_none_iff.mpr hcolon,
      Percent.encode_inUserInfo_of_isPlain hplain]

/-- The path of the form as it is read. -/
def publicPath (m : PropertyMap) : List Char :=
  Uri.readPathAfterAuthority ('/' :: encode inComponent (databasePart m))

/-- The URI of the form, if the host is read. -/
theorem read_public (m : PropertyMap) {text host : List Char} {port : Option UInt16}
    (hchars : ∀ c ∈ text, isHostChar c = true)
    (hread : Uri.readHostAndPort text = .ok (host, port, []))
    (huser : host = [] → userInfo? m = none) :
    Uri.read ('/' :: '/' :: withUserInfo (userInfo? m) (text ++ publicRest m)) = .ok {
      user := (userInfo? m).getD [], password := none, host, port
      path := publicPath m
      query := publicQuery? m } := by
  have huri := (publicParts m).read_text hchars hread huser
  have hinfo : Uri.readUserInfo ((publicParts m).userInfo.getD []) = _ := readUserInfo_public m
  rw [hinfo, Uri.Parts.text, rest_publicParts] at huri
  exact huri

/-! ## Hosts that fit -/

/-- A list of hosts that is separated as it is: it holds a comma, runs into nothing, and its entries
are addresses. -/
structure IsHostList (hosts : List Char) : Prop where
  comma : ',' ∈ hosts
  chars : ∀ c ∈ hosts, c ≠ '@' ∧ endsAuthority c = false
  entries : ∀ entry ∈ ServerAddress.entries hosts, (ServerAddress.parse? entry).isSome = true

/-- A host that fits into an authority: a list of hosts, or one host that reads as itself. -/
def FitsAuthority (hosts : List Char) : Prop :=
  IsHostList hosts ∨ ',' ∉ hosts ∧ IsHostWithPort hosts

/-- The form for logs of a map can be read back: there is a host if there is a user, the host fits
into an authority, and the database is no dot segment. -/
structure FitsPublicForm (m : PropertyMap) : Prop where
  user : (part m .user).isSome = true → (part m .host).isSome = true
  host : ∀ host ∈ part m .host, FitsAuthority host
  not_dot : part m .database ≠ some ['.']
  not_dots : part m .database ≠ some ['.', '.']

instance (hosts : List Char) : Decidable (IsHostList hosts) :=
  decidable_of_iff (hosts.contains ',' = true ∧
    hosts.all (fun c ↦ c ≠ '@' && !endsAuthority c) = true ∧
    (ServerAddress.entries hosts).all (fun entry ↦ (ServerAddress.parse? entry).isSome) = true)
    ⟨fun h ↦ ⟨by simpa using h.1, by simpa using h.2.1, by simpa using h.2.2⟩,
      fun h ↦ ⟨by simpa using h.comma, by simpa using h.chars, by simpa using h.entries⟩⟩

instance (hosts : List Char) : Decidable (FitsAuthority hosts) :=
  decidable_of_iff (IsHostList hosts ∨ hosts.contains ',' = false ∧ IsHostWithPort hosts)
    (by simp [FitsAuthority])

instance (m : PropertyMap) : Decidable (FitsPublicForm m) :=
  decidable_of_iff (((part m .user).isSome = true → (part m .host).isSome = true) ∧
    (part m .host).all (fun host ↦ FitsAuthority host) = true ∧
    part m .database ≠ some ['.'] ∧ part m .database ≠ some ['.', '.'])
    ⟨fun h ↦ ⟨h.1, by simpa [Option.all_eq_true] using h.2.1, h.2.2.1, h.2.2.2⟩,
      fun h ↦ ⟨h.user, by simpa [Option.all_eq_true] using h.host, h.not_dot, h.not_dots⟩⟩

private theorem isHost_standInHost : Uri.IsHost standInHost := .inl (by decide +kernel)

/-- The host of a URI is its name or address with the port. -/
theorem hostText_eq (uri : Uri) : hostText uri = uri.host ++ portText uri.port := by
  rw [hostText]
  cases uri.port <;> simp [portText]

/-- What the stages find up to the URI. -/
structure IsPublicUri (m : PropertyMap) (text : List Char) (hostList : Option (List Char))
    (uri : Uri) : Prop where
  separated : separateHosts ('/' :: '/' :: withUserInfo (userInfo? m)
    (hostPart m ++ publicRest m)) = .ok (text, hostList)
  read : Uri.read text = .ok uri
  host : hostList.getD (hostText uri) = hostPart m
  user : uri.user = (userInfo? m).getD []
  password : uri.password = none
  path : uri.path = publicPath m
  query : uri.query = publicQuery? m

private theorem exists_isPublicUri_of_no_host {m : PropertyMap} (hh : hostPart m = [])
    (hu : userInfo? m = none) : ∃ text hostList uri, IsPublicUri m text hostList uri := by
  have hauth : IsAuthority (userInfo? m) [] (publicRest m) := isAuthority_public m (by simp)
  have hsep := separateHosts_of_not_mem hauth (by simp)
  have hread : Uri.readHostAndPort [] = .ok ([], none, []) := rfl
  exact ⟨_, none, _, by rw [hh, hsep], read_public m (by simp) hread (fun _ ↦ hu), hh.symm, rfl,
    rfl, rfl, rfl⟩

private theorem read_public_of_isHost (m : PropertyMap) {host : List Char} (hp : Uri.IsHost host)
    (port : Option UInt16) :
    Uri.read ('/' :: '/' :: withUserInfo (userInfo? m) (host ++ portText port ++ publicRest m)) =
      .ok {
        user := (userInfo? m).getD [], password := none, host, port
        path := publicPath m
        query := publicQuery? m } :=
  read_public m (Uri.isHostChar_of_mem hp.isPrinted port)
    (Uri.readHostAndPort_append_portText hp port) fun he ↦ absurd he hp.isPrinted.ne_nil

private theorem exists_isPublicUri_of_isHostList {m : PropertyMap} (h : IsHostList (hostPart m)) :
    ∃ text hostList uri, IsPublicUri m text hostList uri := by
  have hsep := (separateHosts_eq_ok_iff_of_mem (isAuthority_public m h.chars) h.comma).mpr
    ⟨h.entries, rfl, rfl⟩
  have hread := read_public_of_isHost m isHost_standInHost none
  rw [portText, List.append_nil] at hread
  exact ⟨_, some (hostPart m), _, hsep, hread, rfl, rfl, rfl, rfl, rfl⟩

private theorem exists_isPublicUri_of_isHostWithPort {m : PropertyMap} (hc : ',' ∉ hostPart m)
    (h : IsHostWithPort (hostPart m)) : ∃ text hostList uri, IsPublicUri m text hostList uri := by
  obtain ⟨host, port, hp, he⟩ := h
  have hchars : ∀ c ∈ hostPart m, c ≠ '@' ∧ endsAuthority c = false := by
    intro c hm
    rw [he] at hm
    have hspec := Uri.isHostChar_spec (Uri.isHostChar_of_mem hp.isPrinted port c hm)
    exact ⟨hspec.1, hspec.2.1⟩
  have hsep := separateHosts_of_not_mem (isAuthority_public m hchars) hc
  have hread := read_public_of_isHost m hp port
  rw [← he] at hread
  exact ⟨_, none, _, hsep, hread, by rw [Option.getD_none, hostText_eq, he], rfl, rfl, rfl, rfl⟩

/-- The URI is read whatever the database is. -/
theorem exists_isPublicUri {m : PropertyMap}
    (huser : (part m .user).isSome = true → (part m .host).isSome = true)
    (hhost : ∀ host ∈ part m .host, FitsAuthority host) :
    ∃ text hostList uri, IsPublicUri m text hostList uri := by
  cases hh : part m .host with
  | none =>
    have hu : userInfo? m = none := by
      rw [hh] at huser
      rw [userInfo?, Option.map_eq_none_iff, ← Option.not_isSome_iff_eq_none]
      exact fun hs ↦ nomatch huser hs
    exact exists_isPublicUri_of_no_host (by rw [hostPart, hh, Option.getD_none]) hu
  | some host =>
    have hpart : hostPart m = host := by rw [hostPart, hh, Option.getD_some]
    rcases hhost host hh with hl | ⟨hc, hp⟩
    · exact exists_isPublicUri_of_isHostList (hpart ▸ hl)
    · exact exists_isPublicUri_of_isHostWithPort (hpart ▸ hc) (hpart ▸ hp)

/-! ## Reading the form -/

/-- What reading the form offers. -/
def publicEntries (m : PropertyMap) : List (String × String) :=
  (Property.host.name, String.ofList (hostPart m)) ::
    (Property.user.name, String.ofList ((part m .user).getD [])) ::
    (Property.database.name, String.ofList (databasePart m)) :: publicOptions m

private theorem readPart_userInfo? (m : PropertyMap) :
    readPart .user ((userInfo? m).getD []) = .ok (String.ofList ((part m .user).getD [])) := by
  rw [userInfo?]
  cases part m .user with
  | none => exact readPart_encode Percent.keepsApart_inComponent.percent .user []
  | some user => exact readPart_encode Percent.keepsApart_inComponent.percent .user user

private theorem databasePart_ne {m : PropertyMap} {dots : List Char} (hd : dots ≠ [])
    (h : part m .database ≠ some dots) : databasePart m ≠ dots := by
  rw [databasePart]
  cases hp : part m .database with
  | none => exact hd.symm
  | some database =>
    rw [hp] at h
    exact fun he ↦ h (congrArg some he)

private theorem firstSegment_publicPath {m : PropertyMap} (h : FitsPublicForm m) :
    firstSegment (publicPath m) = encode inComponent (databasePart m) :=
  firstSegment_readPathAfterAuthority Percent.keepsApart_inComponent
    (databasePart_ne (by simp) h.not_dot) (databasePart_ne (by simp) h.not_dots)

private theorem supports_of_mem_publicOptions {m : PropertyMap} :
    ∀ pair ∈ publicOptions m, Schema.standard.supports pair.1 = true := by
  intro pair hp
  obtain ⟨e, he, hv⟩ := List.mem_filterMap.mp hp
  obtain ⟨value, -, rfl⟩ := Option.map_eq_some_iff.mp hv
  exact Schema.supports_name (List.mem_filter.mp he).1

/-- The query of the form reads as its options. -/
theorem readQuery_public (m : PropertyMap) :
    readQuery Schema.standard ((publicQuery? m).getD []) = .ok (publicOptions m) := by
  have hread := readQuery_escapedQuery? Schema.standard escapesValues_encodeForm
    (isPlainKey_of_mem_publicOptions (m := m))
  rw [List.filter_eq_self.mpr supports_of_mem_publicOptions] at hread
  exact hread

/-- The form for logs of a map that fits reads back as offers of its parts and options. -/
theorem read_scheme_printPublic {m : PropertyMap} (h : FitsPublicForm m) (scheme : String)
    (seed : PropertyMap) :
    read Schema.standard scheme none seed (scheme ++ printPublic Schema.standard m) =
      .ok (seed.offerAll (publicEntries m)) := by
  obtain ⟨text, hostList, uri, hu⟩ := exists_isPublicUri h.user h.host
  rw [read_scheme_append_eq_ok_iff (toList_printPublic m)]
  let s : Stages := ⟨text, hostList, uri, String.ofList ((part m .user).getD []), [],
    String.ofList (databasePart m), publicOptions m, []⟩
  have hs : s.Of Schema.standard none
      ('/' :: '/' :: withUserInfo (userInfo? m) (hostPart m ++ publicRest m)) := by
    refine ⟨hu.separated, hu.read, ?_, ?_, ?_, ?_, rfl⟩
    · rw [hu.user]
      exact readPart_userInfo? m
    · rw [hu.password]
      rfl
    · rw [hu.path, firstSegment_publicPath h]
      exact readPart_encode Percent.keepsApart_inComponent.percent .database (databasePart m)
    · rw [hu.query]
      exact readQuery_public m
  have he : s.entries = publicEntries m := by
    simp [Stages.entries, Stages.host_eq, publicEntries, s, hu.host]
  exact ⟨s, hs, by rw [he]⟩

/-! ## The map that is read back -/

/-- The map that the form for logs reads back as. -/
def publicMap (m : PropertyMap) : PropertyMap := PropertyMap.empty.offerAll (publicEntries m)

private theorem filter_part (m : PropertyMap) (p : Property) :
    [(p.name, String.ofList ((part m p).getD []))].filter (fun e ↦ !Text.isBlank e.2) =
      ((m.getNonBlank? p.name).map fun value ↦ (p.name, value)).toList := by
  rw [part]
  cases hv : m.getNonBlank? p.name with
  | none => rfl
  | some value =>
    have hb : (!Text.isBlank value) = true := (Option.filter_eq_some_iff.mp hv).2
    simp [hb]

private theorem lookup_part (m : PropertyMap) (p : Property) (key : String) :
    (((m.getNonBlank? p.name).map fun value ↦ (p.name, value)).toList).lookup key =
      if key = p.name then m.getNonBlank? key else none := by
  by_cases hk : key = p.name
  · rw [if_pos hk, hk]
    cases m.getNonBlank? p.name with
    | none => rfl
    | some value => simp
  · have hne : (key == p.name) = false := by simpa using hk
    rw [if_neg hk]
    cases m.getNonBlank? p.name with
    | none => rfl
    | some value => simp [List.lookup_cons, hne]

private theorem lookup_publicEntries (m : PropertyMap) (key : String) :
    ((publicEntries m).filter fun e ↦ !Text.isBlank e.2).lookup key =
      ((if key = Property.host.name then m.getNonBlank? key else none).or
      ((if key = Property.user.name then m.getNonBlank? key else none).or
      ((if key = Property.database.name then m.getNonBlank? key else none).or
        ((publicOptions m).lookup key)))) := by
  have ho : (publicOptions m).filter (fun e ↦ !Text.isBlank e.2) = publicOptions m :=
    List.filter_eq_self.mpr fun pair hp ↦ by simp [isBlank_of_mem_deviations pair hp]
  have he : publicEntries m =
      [(Property.host.name, String.ofList ((part m .host).getD []))] ++
      ([(Property.user.name, String.ofList ((part m .user).getD []))] ++
      ([(Property.database.name, String.ofList ((part m .database).getD []))] ++
        publicOptions m)) := rfl
  rw [he, List.filter_append, List.filter_append, List.filter_append, filter_part, filter_part,
    filter_part, ho, List.lookup_append, List.lookup_append, List.lookup_append, lookup_part,
    lookup_part, lookup_part]

/-- A key that may be printed is none of another property that may not. -/
theorem ne_name_of_printed {p : Property} {e : SchemaEntry}
    (he : e ∈ Schema.standard.entries.filter SchemaEntry.printed) (hp : p.entry.printed = false) :
    e.name ≠ p.name := by
  obtain ⟨hm, hprinted⟩ := List.mem_filter.mp he
  obtain ⟨q, rfl⟩ := Schema.mem_entries_standard.mp hm
  intro hk
  rw [Property.name_inj.mp hk, hp] at hprinted
  cases hprinted

/-- The parts of the form are read back unless they are blank. -/
theorem get?_publicMap_part (m : PropertyMap) {p : Property}
    (hp : p ∈ [Property.user, .host, .database]) :
    (publicMap m).get? p.name = m.getNonBlank? p.name := by
  have hprinted : p.entry.printed = false := by
    revert p
    decide
  have ho : (publicOptions m).lookup p.name = none :=
    lookup_deviations_eq_none m fun e he ↦ ne_name_of_printed he hprinted
  rw [publicMap, PropertyMap.get?_offerAll, lookup_publicEntries, ho]
  simp only [List.mem_cons, List.not_mem_nil, or_false] at hp
  rcases hp with rfl | rfl | rfl
  · simp [Property.name_inj, PropertyMap.get?_empty]
  · simp [Property.name_inj, PropertyMap.get?_empty]
  · simp [Property.name_inj, PropertyMap.get?_empty]

/-- The options of the form are read back. -/
theorem get?_publicMap_option (m : PropertyMap) {e : SchemaEntry}
    (he : e ∈ Schema.standard.entries) (hp : e.printed = true) :
    (publicMap m).get? e.name = deviation? m e := by
  have hm : e ∈ Schema.standard.entries.filter SchemaEntry.printed :=
    List.mem_filter.mpr ⟨he, hp⟩
  have hn : ((Schema.standard.entries.filter SchemaEntry.printed).map SchemaEntry.name).Nodup :=
    Schema.nodup_names_standard.sublist (List.filter_sublist.map _)
  rw [publicMap, PropertyMap.get?_offerAll, lookup_publicEntries,
    if_neg (ne_name_of_printed hm (by decide)), if_neg (ne_name_of_printed hm (by decide)),
    if_neg (ne_name_of_printed hm (by decide)), publicOptions, lookup_deviations m hn hm]
  rfl

/-- Nothing else is read back. -/
theorem get?_publicMap_other (m : PropertyMap) {key : String}
    (h : ∀ p : Property, key = p.name →
      p ∉ [Property.user, .host, .database] ∧ p.entry.printed = false) :
    (publicMap m).get? key = none := by
  have hpart : ∀ p ∈ [Property.user, .host, .database], key ≠ p.name := fun p hp he ↦
    (h p he).1 hp
  have ho : (publicOptions m).lookup key = none := by
    apply lookup_deviations_eq_none m
    intro e he hk
    obtain ⟨hm, hprinted⟩ := List.mem_filter.mp he
    obtain ⟨p, rfl⟩ := Schema.mem_entries_standard.mp hm
    rw [(h p hk.symm).2] at hprinted
    cases hprinted
  rw [publicMap, PropertyMap.get?_offerAll, lookup_publicEntries, ho,
    if_neg (hpart .host (by decide)), if_neg (hpart .user (by decide)),
    if_neg (hpart .database (by decide))]
  rfl

/-- A property that is no part and is not printed is not read back. -/
theorem get?_publicMap_secret (m : PropertyMap) {p : Property}
    (hp : p ∉ [Property.user, .host, .database]) (hn : p.entry.printed = false) :
    (publicMap m).get? p.name = none := by
  apply get?_publicMap_other
  intro q hq
  rw [← Property.name_inj.mp hq]
  exact ⟨hp, hn⟩

/-- What is read back is printed in the same way. -/
theorem printPublic_publicMap (m : PropertyMap) :
    printPublic Schema.standard (publicMap m) = printPublic Schema.standard m := by
  have hpart : ∀ p ∈ [Property.user, .host, .database], part (publicMap m) p = part m p := by
    intro p hp
    rw [part, part, PropertyMap.getNonBlank?, get?_publicMap_part m hp, PropertyMap.getNonBlank?,
      Option.filter_filter]
    simp
  exact printPublic_congr (hpart .user (by decide)) (hpart .host (by decide))
    (hpart .database (by decide)) fun e he hp ↦ deviation?_of_get? (get?_publicMap_option m he hp)

end ConnectionConfig.ConnectionString
