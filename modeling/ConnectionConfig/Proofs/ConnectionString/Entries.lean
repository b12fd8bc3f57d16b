import ConnectionConfig.Proofs.ConnectionString.Stages

/-!
# The entries that are read

What a connection string says is told part by part, without regard to whether all of it is in
order: the text that is a URI, the texts that its parts stand for, and the pairs of its options.
A connection string that is read on its own holds, in turn, the first of these for each key that is
not blank.
-/

namespace ConnectionConfig.ConnectionString

open PropertyMap (empty firstOfEach)
open Uri (withUserInfo IsAuthority)

/-! ## The URI -/

/-- The text that is read as a URI, and the list of hosts: if the hosts of the authority hold a
comma, they are the list, and one host takes their place; any other remainder is read as it is. -/
inductive IsSeparated : List Char → List Char → Option (List Char) → Prop
  | list {userInfo : Option (List Char)} {hosts rest : List Char}
      (authority : IsAuthority userInfo hosts rest) (comma : ',' ∈ hosts) :
      IsSeparated ('/' :: '/' :: withUserInfo userInfo (hosts ++ rest))
        ('/' :: '/' :: withUserInfo userInfo (standInHost ++ rest)) (some hosts)
  | whole {remainder : List Char}
      (no_comma : ∀ {userInfo : Option (List Char)} {hosts rest : List Char},
        IsAuthority userInfo hosts rest →
        remainder = '/' :: '/' :: withUserInfo userInfo (hosts ++ rest) → ',' ∉ hosts) :
      IsSeparated remainder remainder none

/-- A remainder without two slashes at its start is left alone. -/
theorem separateHosts_of_not_slashes {remainder : List Char}
    (h : ∀ rest, remainder ≠ '/' :: '/' :: rest) :
    separateHosts remainder = .ok (remainder, none) := by
  rw [separateHosts]
  exact h

/-- Separating the hosts does what it should. -/
theorem isSeparated_of_separateHosts {remainder text : List Char} {hostList : Option (List Char)}
    (h : separateHosts remainder = .ok (text, hostList)) :
    IsSeparated remainder text hostList := by
  by_cases hslashes : ∃ rest, remainder = '/' :: '/' :: rest
  · obtain ⟨rest, rfl⟩ := hslashes
    obtain ⟨userInfo, hosts, rest, ha, rfl⟩ := Uri.exists_isAuthority rest
    by_cases hc : ',' ∈ hosts
    · obtain ⟨-, rfl, rfl⟩ := (separateHosts_eq_ok_iff_of_mem ha hc).mp h
      exact .list ha hc
    · rw [separateHosts_of_not_mem ha hc] at h
      cases h
      refine .whole fun ha' he ↦ ?_
      simp only [List.cons.injEq, true_and] at he
      rwa [← (ha.unique ha' he).2.1]
  · have hno : ∀ rest, remainder ≠ '/' :: '/' :: rest := fun rest he ↦ hslashes ⟨rest, he⟩
    rw [separateHosts_of_not_slashes hno] at h
    cases h
    exact .whole fun _ he ↦ absurd he (hno _)

/-- A remainder is separated in one way. -/
theorem IsSeparated.unique {remainder text text' : List Char}
    {hostList hostList' : Option (List Char)} (h : IsSeparated remainder text hostList)
    (h' : IsSeparated remainder text' hostList') : text = text' ∧ hostList = hostList' := by
  cases h with
  | list ha hc =>
    -- The remainder has to be a variable for the second reading to be taken apart.
    generalize hr : '/' :: '/' :: withUserInfo _ _ = remainder at h'
    cases h' with
    | list ha' hc' =>
      simp only [List.cons.injEq, true_and] at hr
      obtain ⟨rfl, rfl, rfl⟩ := ha.unique ha' hr
      exact ⟨rfl, rfl⟩
    | whole hno => exact absurd hc (hno ha hr.symm)
  | whole hno =>
    cases h' with
    | list ha' hc' => exact absurd hc' (hno ha' rfl)
    | whole _ => exact ⟨rfl, rfl⟩

/-- Without a list of hosts the whole remainder is the URI. -/
theorem IsSeparated.eq_of_none {remainder text : List Char} (h : IsSeparated remainder text none) :
    text = remainder := by
  cases h
  rfl

/-! ## Parts and options -/

/-- A path is slashes, its first segment, and a rest that starts with the next slash. Only a path of
slashes has an empty first segment. -/
inductive IsFirstSegment : List Char → List Char → Prop
  | of_append {slashes segment rest : List Char} (slashes_only : ∀ c ∈ slashes, c = '/')
      (no_slash : '/' ∉ segment) (next_slash : ∀ c ∈ rest.head?, c = '/')
      (ends : segment = [] → rest = []) : IsFirstSegment (slashes ++ segment ++ rest) segment

/-- What the reader takes for the first segment is the first segment. -/
theorem isFirstSegment_firstSegment (path : List Char) :
    IsFirstSegment path (firstSegment path) := by
  have hpath : path.takeWhile (· == '/') ++ firstSegment path ++
      (path.dropWhile (· == '/')).dropWhile (· != '/') = path := by
    rw [firstSegment, List.append_assoc, List.takeWhile_append_dropWhile,
      List.takeWhile_append_dropWhile]
  have hslashes : ∀ c ∈ path.takeWhile (· == '/'), c = '/' := by
    intro c hc
    have hspec := Text.of_mem_takeWhile hc
    simpa using hspec
  have hno : '/' ∉ firstSegment path := fun hc ↦ absurd (Text.of_mem_takeWhile hc) (by decide)
  have hnext : ∀ c ∈ ((path.dropWhile (· == '/')).dropWhile (· != '/')).head?, c = '/' := by
    intro c hc
    have hspec := Text.of_mem_head?_dropWhile hc
    simpa using hspec
  have hends : firstSegment path = [] → (path.dropWhile (· == '/')).dropWhile (· != '/') = [] := by
    -- The character after the slashes at the start is no slash, so that it is in the segment.
    intro hempty
    rw [firstSegment] at hempty
    cases hdrop : path.dropWhile (· == '/') with
    | nil => rfl
    | cons c cs =>
      have hc : c ∈ (path.dropWhile (· == '/')).head? := by
        rw [hdrop]
        rfl
      have hspec := Text.of_mem_head?_dropWhile hc
      rw [hdrop, List.takeWhile_cons_of_pos (by simpa using hspec)] at hempty
      cases hempty
  have hsegment := IsFirstSegment.of_append hslashes hno hnext hends
  rwa [hpath] at hsegment

/-- The reader finds the first segment of a path. -/
theorem IsFirstSegment.firstSegment_eq {path segment : List Char}
    (h : IsFirstSegment path segment) : firstSegment path = segment := by
  cases h with
  | @of_append slashes _ rest hslashes hno hnext hends =>
    have hall : ∀ c ∈ segment, (c != '/') = true := fun c hc ↦
      bne_iff_ne.mpr fun he ↦ hno (he ▸ hc)
    have hstop : ∀ c ∈ (segment ++ rest).head?, (c == '/') = false := by
      cases segment with
      | nil =>
        rw [hends rfl]
        simp
      | cons c cs => simpa using hall c List.mem_cons_self
    rw [firstSegment, List.append_assoc,
      Text.dropWhile_append_of_head (by simpa using hslashes) hstop,
      Text.takeWhile_append_of_head hall (by simpa using hnext)]

/-- A path has one first segment. -/
theorem IsFirstSegment.unique {path segment segment' : List Char}
    (h : IsFirstSegment path segment) (h' : IsFirstSegment path segment') : segment = segment' :=
  h.firstSegment_eq.symm.trans h'.firstSegment_eq

/-- A part with escapes stands for a text: its bytes are the text in UTF-8. -/
def StandsFor (part : List Char) (text : String) : Prop :=
  Utf8.decode? (Percent.decode part) = some text.toList

/-- The pairs of a query: the first equals sign of a segment separates key and value, and both are
decoded. -/
def queryPairs (query : List Char) : List (String × String) :=
  ((query.splitOn '&').filterMap (Text.cutFirst? '=')).map fun (key, value) ↦
    (String.ofList (Percent.decodeForm key), String.ofList (Percent.decodeForm value))

/-- The pairs of the options for all connections: the first equals sign of a trimmed segment
separates key and value, and neither is decoded. -/
def optionPairs (options : String) : List (String × String) :=
  (((options.toList.splitOn ';').map Text.trimChars).filterMap (Text.cutFirst? '=')).map
    fun (key, value) ↦ (String.ofList key, String.ofList value)

private theorem cutFirst?_of_readOption {option : List Char} {pair : List Char × List Char}
    (h : readOption option = .ok pair) : Text.cutFirst? '=' option = some pair := by
  rw [readOption] at h
  split at h
  · next hcut =>
    cases h
    exact hcut
  · cases h

private theorem filterMap_cutFirst?_of_forall₂ {options : List (List Char)}
    {pairs : List (List Char × List Char)}
    (h : List.Forall₂ (fun option pair ↦ readOption option = .ok pair) options pairs) :
    options.filterMap (Text.cutFirst? '=') = pairs := by
  induction h with
  | nil => rfl
  | cons hpair _ ih => rw [List.filterMap_cons, cutFirst?_of_readOption hpair, ih]

private theorem filterMap_cutFirst?_of_mapM {segments : List (List Char)}
    {pairs : List (List Char × List Char)}
    (h : (segments.filter fun segment ↦ !segment.isEmpty).mapM readOption = .ok pairs) :
    segments.filterMap (Text.cutFirst? '=') = pairs := by
  have hempty : segments.filterMap (Text.cutFirst? '=') =
      (segments.filter fun segment ↦ !segment.isEmpty).filterMap (Text.cutFirst? '=') := by
    rw [List.filterMap_filter]
    apply List.filterMap_congr
    intro segment _
    cases segment <;> rfl
  rw [hempty, filterMap_cutFirst?_of_forall₂ (mapM_eq_ok_iff.mp h)]

/-- The options of a query are its pairs with a supported key. -/
theorem eq_of_readQuery {schema : Schema} {query : List Char} {found : List (String × String)}
    (h : readQuery schema query = .ok found) :
    found = (queryPairs query).filter fun pair ↦ schema.supports pair.1 := by
  rw [readQuery] at h
  cases hm : ((query.splitOn '&').filter fun option ↦ !option.isEmpty).mapM readOption with
  | error e =>
    rw [hm] at h
    cases h
  | ok pairs =>
    rw [hm] at h
    cases h
    rw [queryPairs, filterMap_cutFirst?_of_mapM hm]

/-- The options for all connections are all pairs. -/
theorem eq_of_readOptions {options : String} {found : List (String × String)}
    (h : readOptions options = .ok found) : found = optionPairs options := by
  rw [readOptions] at h
  cases hm : (((options.toList.splitOn ';').map Text.trimChars).filter
      fun option ↦ !option.isEmpty).mapM readOption with
  | error e =>
    rw [hm] at h
    cases h
  | ok pairs =>
    rw [hm] at h
    cases h
    rw [optionPairs, filterMap_cutFirst?_of_mapM hm]

/-! ## The whole -/

/-- The record says what a remainder says, part by part: the parts of the URI, the texts of the user
name, the password and the first segment of the path, the pairs of the query with a supported key,
and all pairs of the options for all connections. -/
structure Stages.IsReadingOf (s : Stages) (schema : Schema) (options : Option String)
    (remainder : List Char) : Prop where
  separated : IsSeparated remainder s.uriText s.hostList
  uri : Uri.read s.uriText = .ok s.uri
  user : StandsFor s.uri.user s.user
  password : List.Forall₂ StandsFor s.uri.password.toList s.password
  database : ∃ segment, IsFirstSegment s.uri.path segment ∧ StandsFor segment s.database
  query : s.query = (queryPairs (s.uri.query.getD [])).filter fun pair ↦ schema.supports pair.1
  options : s.options = optionPairs (options.getD "")

/-- What the stages of reading find is what the remainder says. -/
theorem Stages.Of.isReadingOf {s : Stages} {schema : Schema} {options : Option String}
    {remainder : List Char} (h : s.Of schema options remainder) :
    s.IsReadingOf schema options remainder where
  separated := isSeparated_of_separateHosts h.hosts
  uri := h.uri
  user := readPart_eq_ok_iff.mp h.user
  password := (mapM_eq_ok_iff.mp h.password).imp fun _ _ ↦ readPart_eq_ok_iff.mp
  database := ⟨_, isFirstSegment_firstSegment _, readPart_eq_ok_iff.mp h.database⟩
  query := eq_of_readQuery h.query
  options := eq_of_readOptions h.options

private theorem StandsFor.unique {part : List Char} {text text' : String}
    (h : StandsFor part text) (h' : StandsFor part text') : text = text' := by
  rw [StandsFor, h] at h'
  exact String.toList_inj.mp (Option.some.inj h')

private theorem eq_of_forall₂_standsFor {parts : List (List Char)} {texts texts' : List String}
    (h : List.Forall₂ StandsFor parts texts) (h' : List.Forall₂ StandsFor parts texts') :
    texts = texts' := by
  induction h generalizing texts' with
  | nil =>
    cases h'
    rfl
  | cons hpart _ ih =>
    cases h' with
    | cons hpart' hrest => rw [hpart.unique hpart', ih hrest]

/-- A remainder says one thing only. -/
theorem Stages.IsReadingOf.unique {s s' : Stages} {schema : Schema} {options : Option String}
    {remainder : List Char} (h : s.IsReadingOf schema options remainder)
    (h' : s'.IsReadingOf schema options remainder) : s = s' := by
  obtain ⟨htext, hlist⟩ := h.separated.unique h'.separated
  have huri : s.uri = s'.uri := by
    have hread := h.uri
    rw [htext, h'.uri] at hread
    exact (Except.ok.inj hread).symm
  have huser : s.user = s'.user := h.user.unique (huri ▸ h'.user)
  have hpassword : s.password = s'.password :=
    eq_of_forall₂_standsFor h.password (huri ▸ h'.password)
  have hdatabase : s.database = s'.database := by
    obtain ⟨segment, hsegment, htext⟩ := h.database
    obtain ⟨segment', hsegment', htext'⟩ := h'.database
    rw [← huri] at hsegment'
    rw [hsegment'.unique hsegment] at htext'
    exact htext.unique htext'
  have hquery : s.query = s'.query := by rw [h.query, h'.query, huri]
  have hoptions : s.options = s'.options := by rw [h.options, h'.options]
  cases s
  cases s'
  simp only [Stages.mk.injEq]
  exact ⟨htext, hlist, huri, huser, hpassword, hdatabase, hquery, hoptions⟩

/-- What a connection string says without its query. -/
def Stages.withoutQuery (s : Stages) : Stages := { s with query := [] }

private theorem entries_eq (s : Stages) :
    s.entries = ((Property.host.name, s.host) :: (Property.user.name, s.user) ::
      (s.password.map fun p ↦ (Property.password.name, p)) ++
      [(Property.database.name, s.database)]) ++ s.query ++ s.options := by
  simp [Stages.entries]

private theorem lookup_eq_none {pairs : List (String × String)} {key : String}
    (h : ∀ pair ∈ pairs, pair.1 ≠ key) : pairs.lookup key = none :=
  List.lookup_eq_none_iff.mpr fun pair hp ↦ bne_iff_ne.mpr (h pair hp).symm

private theorem lookup_entries_of_not_supports {s : Stages} {schema : Schema}
    {options : Option String} {remainder : List Char} (h : s.IsReadingOf schema options remainder)
    {key : String} (hkey : schema.supports key = false) :
    (s.entries.filter fun e ↦ !Text.isBlank e.2).lookup key =
      (s.withoutQuery.entries.filter fun e ↦ !Text.isBlank e.2).lookup key := by
  have hquery : (s.query.filter fun e ↦ !Text.isBlank e.2).lookup key = none := by
    apply lookup_eq_none
    intro e he hk
    rw [h.query] at he
    have hs := (List.mem_filter.mp (List.mem_filter.mp he).1).2
    rw [hk, hkey] at hs
    cases hs
  have hnone : s.withoutQuery.query = [] := rfl
  rw [entries_eq, entries_eq s.withoutQuery, hnone]
  simp only [List.filter_append, List.lookup_append, hquery, List.filter_nil, List.lookup_nil,
    Option.or_none]
  rfl

/-- What a connection string that is read on its own holds. If nothing but white space follows the
scheme, it holds nothing, whatever the options for all connections are. Otherwise it holds, in turn,
the first value of each key that is not blank among host, user, password, database, the supported
options of the query and the options for all connections. So no key occurs twice, no value is blank,
and the value of a key that is not supported is the one without the query. -/
theorem toList_of_read {schema : Schema} {scheme : String} {options : Option String}
    {remainder : String} {m : PropertyMap}
    (h : read schema scheme options empty (scheme ++ remainder) = .ok m) :
    (Text.isBlank remainder = true → m.toList = []) ∧
      (Text.isBlank remainder = false → ∃ s : Stages,
        s.IsReadingOf schema options remainder.toList ∧
        m.toList = firstOfEach (s.entries.filter fun e ↦ !Text.isBlank e.2) ∧
        ∀ key, schema.supports key = false → m.get? key =
          (s.withoutQuery.entries.filter fun e ↦ !Text.isBlank e.2).lookup key) ∧
      m.keys.Nodup ∧ ∀ e ∈ m.toList, Text.isBlank e.2 = false := by
  rw [read_append] at h
  cases hb : Text.isBlank remainder with
  | true =>
    rw [hb, if_pos rfl, Except.ok.injEq] at h
    subst h
    exact ⟨fun _ ↦ rfl, (nomatch ·), empty.nodup_keys, fun e he ↦ nomatch he⟩
  | false =>
    rw [hb, if_neg Bool.false_ne_true] at h
    cases ho : offers schema options remainder.toList with
    | error e =>
      rw [ho] at h
      cases h
    | ok entries =>
      rw [ho] at h
      cases h
      obtain ⟨s, hs, rfl⟩ := offers_eq_ok_iff.mp ho
      have hlist := PropertyMap.toList_offerAll_empty s.entries
      refine ⟨(nomatch ·), fun _ ↦ ⟨s, hs.isReadingOf, hlist, fun key hk ↦ ?_⟩,
        (empty.offerAll s.entries).nodup_keys, fun e he ↦ ?_⟩
      · rw [PropertyMap.get?_offerAll, PropertyMap.get?_empty,
          lookup_entries_of_not_supports hs.isReadingOf hk]
        rfl
      · rw [hlist] at he
        have hnb := (List.mem_filter.mp ((PropertyMap.sublist_firstOfEach _).subset he)).2
        simpa using hnb

/-- One host is held with its port in the shortest form, and the database without what follows it.
A list of hosts is held as it stands. A blank value and a key of the query that is not supported
keep nothing out. -/
theorem toList_of_read_port_and_hostList :
    (∃ (m : PropertyMap) (s : Stages),
      read Schema.standard scheme (some "w=1; tls=false") empty
        (scheme ++ "//ann:p%40@[0:0::1]:0270//db/x?w=2&tls=%20&tls=true") = .ok m ∧
      s.IsReadingOf Schema.standard (some "w=1; tls=false")
        "//ann:p%40@[0:0::1]:0270//db/x?w=2&tls=%20&tls=true".toList ∧
      s.host = "[::1]:270" ∧ m.toList = firstOfEach (s.entries.filter fun e ↦ !Text.isBlank e.2) ∧
      m.toList = [("host", "[::1]:270"), ("user", "ann"), ("password", "p@"), ("database", "db"),
        ("tls", "true"), ("w", "1")]) ∧
    ∃ m : PropertyMap,
      read Schema.standard scheme none empty (scheme ++ "//h1:1, h2/db") = .ok m ∧
      m.toList = [("host", "h1:1, h2"), ("database", "db")] := by
  constructor
  · let s : Stages := {
      uriText := "//ann:p%40@[0:0::1]:0270//db/x?w=2&tls=%20&tls=true".toList
      hostList := none
      uri := ⟨"ann".toList, some "p%40".toList, "[::1]".toList, some 270, "//db/x".toList,
        some "w=2&tls=%20&tls=true".toList⟩
      user := "ann"
      password := ["p@"]
      database := "db"
      query := [("tls", " "), ("tls", "true")]
      options := [("w", "1"), ("tls", "false")] }
    have hs : s.Of Schema.standard (some "w=1; tls=false")
        "//ann:p%40@[0:0::1]:0270//db/x?w=2&tls=%20&tls=true".toList :=
      ⟨by decide +kernel, by decide +kernel, by decide +kernel, by decide +kernel,
        by decide +kernel, by decide +kernel, by decide +kernel⟩
    have hread : read Schema.standard scheme (some "w=1; tls=false") empty
        (scheme ++ "//ann:p%40@[0:0::1]:0270//db/x?w=2&tls=%20&tls=true") =
          .ok (empty.offerAll s.entries) :=
      (read_scheme_append_eq_ok_iff rfl).mpr ⟨s, hs, rfl⟩
    obtain ⟨-, hsome, -⟩ := toList_of_read hread
    obtain ⟨s', hs', hlist, -⟩ := hsome (by decide +kernel)
    rw [hs'.unique hs.isReadingOf] at hlist
    exact ⟨_, s, hread, hs.isReadingOf, by decide +kernel, hlist,
      hlist.trans (by decide +kernel)⟩
  · let s : Stages := {
      uriText := "//host-list/db".toList
      hostList := some "h1:1, h2".toList
      uri := ⟨[], none, "host-list".toList, none, "/db".toList, none⟩
      user := ""
      password := []
      database := "db"
      query := []
      options := [] }
    have hs : s.Of Schema.standard none "//h1:1, h2/db".toList :=
      ⟨by decide +kernel, by decide +kernel, by decide +kernel, by decide +kernel,
        by decide +kernel, by decide +kernel, by decide +kernel⟩
    have hread : read Schema.standard scheme none empty (scheme ++ "//h1:1, h2/db") =
        .ok (empty.offerAll s.entries) :=
      (read_scheme_append_eq_ok_iff rfl).mpr ⟨s, hs, rfl⟩
    obtain ⟨-, hsome, -⟩ := toList_of_read hread
    obtain ⟨s', hs', hlist, -⟩ := hsome (by decide +kernel)
    rw [hs'.unique hs.isReadingOf] at hlist
    exact ⟨_, hread, hlist.trans (by decide +kernel)⟩

end ConnectionConfig.ConnectionString
