import Mathlib.Data.List.TakeWhile
import ConnectionConfig.Proofs.ConnectionString.Seeds
import ConnectionConfig.Proofs.ServerAddress
import ConnectionConfig.Proofs.Uri.Segments

/-!
# The stages of reading

A remainder makes offers just when each stage of reading succeeds on what the stages before it
found. What the stages find is kept in one record, so that two readings are compared field by field
and a reading of a given text is built up in the same way.
-/

namespace ConnectionConfig.ConnectionString

open Uri (withUserInfo IsAuthority)

/-- What the stages of reading find: the text that is read as a URI with the list of hosts that was
taken out of it, the parts of the URI, the texts of these parts, the supported options of the query
and the options for all connections. -/
structure Stages where
  uriText : List Char
  hostList : Option (List Char)
  uri : Uri
  user : String
  password : List String
  database : String
  query : List (String × String)
  options : List (String × String)

namespace Stages

/-- The text of the host: the list of hosts as it stands if there is one, and otherwise the host of
the URI, with a colon and the port where there is one. -/
def host (s : Stages) : String :=
  match s.hostList, s.uri.port with
  | some hosts, _ => String.ofList hosts
  | none, some port => String.ofList s.uri.host ++ ":" ++ toString port.toNat
  | none, none => String.ofList s.uri.host

/-- The text of the host is the one that is offered. -/
theorem host_eq (s : Stages) : s.host = String.ofList (s.hostList.getD (hostText s.uri)) := by
  rw [host, hostText]
  cases s.hostList with
  | some hosts => rfl
  | none =>
    cases s.uri.port with
    | none => rfl
    | some port =>
      apply String.toList_inj.mp
      simp [Decimal.ofUInt16, Decimal.ofNat]

/-- What the stages offer, in turn. -/
def entries (s : Stages) : List (String × String) :=
  (Property.host.name, s.host) :: (Property.user.name, s.user) ::
    (s.password.map fun p ↦ (Property.password.name, p)) ++
    (Property.database.name, s.database) :: s.query ++ s.options

/-- An offer is one of the parts or comes from the options. -/
theorem mem_entries {s : Stages} {key value : String} (h : (key, value) ∈ s.entries) :
    (key, value) ∈ s.query ++ s.options ∨ key = Property.host.name ∧ value = s.host ∨
      key = Property.user.name ∨ key = Property.password.name ∨
      key = Property.database.name ∧ value = s.database := by
  simp only [entries, List.mem_cons, List.mem_append, List.mem_map, Prod.mk.injEq,
    List.cons_append, or_assoc] at h
  rcases h with hh | hu | ⟨p, -, hp, -⟩ | hd | ho
  · exact .inr (.inl hh)
  · exact .inr (.inr (.inl hu.1))
  · exact .inr (.inr (.inr (.inl hp.symm)))
  · exact .inr (.inr (.inr (.inr hd)))
  · exact .inl (List.mem_append.mpr ho)

/-- The stages of reading a remainder find what the record says. -/
structure Of (schema : Schema) (options : Option String) (remainder : List Char) (s : Stages) :
    Prop where
  hosts : separateHosts remainder = .ok (s.uriText, s.hostList)
  uri : Uri.read s.uriText = .ok s.uri
  user : readPart .user s.uri.user = .ok s.user
  password : s.uri.password.toList.mapM (readPart .password) = .ok s.password
  database : readPart .database (firstSegment s.uri.path) = .ok s.database
  query : readQuery schema (s.uri.query.getD []) = .ok s.query
  options : readOptions (options.getD "") = .ok s.options

end Stages

/-- Offers are made just when all stages succeed. -/
theorem offers_eq_ok_iff {schema : Schema} {options : Option String} {remainder : List Char}
    {entries : List (String × String)} :
    offers schema options remainder = .ok entries ↔
      ∃ s : Stages, s.Of schema options remainder ∧ s.entries = entries := by
  unfold offers
  simp only [bind_eq_ok_iff, mapError_eq_ok_iff]
  constructor
  · rintro ⟨⟨uriText, hostList⟩, hosts, uri, huri, user, huser, password, hpassword, database,
      hdatabase, query, hquery, opts, hoptions, he⟩
    cases he
    refine ⟨⟨uriText, hostList, uri, user, password, database, query, opts⟩,
      ⟨hosts, huri, huser, hpassword, hdatabase, hquery, hoptions⟩, ?_⟩
    rw [Stages.entries, Stages.host_eq]
  · rintro ⟨s, h, rfl⟩
    rw [Stages.entries, Stages.host_eq]
    exact ⟨(s.uriText, s.hostList), h.hosts, s.uri, h.uri, s.user, h.user, s.password, h.password,
      s.database, h.database, s.query, h.query, s.options, h.options, rfl⟩

/-- What a URI and the options for all connections offer after the host. -/
def offersAfterHost (schema : Schema) (options : Option String) (uri : Uri) :
    Except ConnectionError (List (String × String)) := do
  let user ← readPart .user uri.user
  let password ← uri.password.toList.mapM (readPart .password)
  let database ← readPart .database (firstSegment uri.path)
  let fromQuery ← readQuery schema (uri.query.getD [])
  let fromOptions ← readOptions (options.getD "")
  return (Property.user.name, user) :: (password.map fun p ↦ (Property.password.name, p)) ++
    (Property.database.name, database) :: fromQuery ++ fromOptions

/-- The host is offered first, and everything else goes by the URI alone. -/
theorem offers_eq (schema : Schema) (options : Option String) (remainder : List Char) :
    offers schema options remainder = (do
      let (uriText, hostList) ← separateHosts remainder
      let uri ← (Uri.read uriText).mapError ConnectionError.malformedUri
      let others ← offersAfterHost schema options uri
      return (Property.host.name, String.ofList (hostList.getD (hostText uri))) :: others) := by
  simp [offers, offersAfterHost]

/-- Once the URI is read, everything is offered if what comes after the host is. -/
theorem offers_eq_of_read {schema : Schema} {options : Option String}
    {remainder text : List Char} {hostList : Option (List Char)} {uri : Uri}
    (hseparated : separateHosts remainder = .ok (text, hostList))
    (hread : Uri.read text = .ok uri) :
    offers schema options remainder = (offersAfterHost schema options uri).map fun others ↦
      (Property.host.name, String.ofList (hostList.getD (hostText uri))) :: others := by
  rw [offers_eq, hseparated]
  simp only [bind, Except.bind, hread, Except.mapError]
  cases offersAfterHost schema options uri with
  | error e => rfl
  | ok others => rfl

/-- Once the hosts are separated, offers fail with the URI or with what comes after the host. -/
theorem offers_eq_error_iff_of_separated {schema : Schema} {options : Option String}
    {remainder text : List Char} {hostList : Option (List Char)} {e : ConnectionError}
    (hseparated : separateHosts remainder = .ok (text, hostList)) :
    offers schema options remainder = .error e ↔
      ((Uri.read text).mapError ConnectionError.malformedUri >>= offersAfterHost schema options) =
        .error e := by
  cases hread : Uri.read text with
  | error cause =>
    rw [offers_eq, hseparated]
    simp only [bind, Except.bind, hread, Except.mapError]
  | ok uri =>
    rw [offers_eq_of_read hseparated hread, map_eq_error_iff]
    rfl

/-- A text with the scheme is the scheme and a remainder. -/
theorem isPrefixOf?_scheme_eq_some_iff {scheme text : String} {remainder : List Char} :
    scheme.toList.isPrefixOf? text.toList = some remainder ↔
      text = scheme ++ String.ofList remainder := by
  rw [List.isPrefixOf?_eq_some_iff_append_eq, ← String.toList_inj, String.toList_append,
    String.toList_ofList, eq_comm]

/-- What follows the scheme makes offers unless it is blank. -/
theorem read_append (schema : Schema) (scheme : String) (options : Option String)
    (seed : PropertyMap) (remainder : String) :
    read schema scheme options seed (scheme ++ remainder) =
      if Text.isBlank remainder then .ok seed
      else (offers schema options remainder.toList).map seed.offerAll := by
  have hprefix :
      scheme.toList.isPrefixOf? (scheme ++ remainder).toList = some remainder.toList := by
    rw [isPrefixOf?_scheme_eq_some_iff, String.ofList_toList]
  rw [read, hprefix]
  rfl

/-- What follows the scheme is read if it starts with a slash. -/
theorem read_scheme_append (schema : Schema) (scheme : String) (options : Option String)
    (seed : PropertyMap) {text : String} {rest : List Char} (h : text.toList = '/' :: rest) :
    read schema scheme options seed (scheme ++ text) =
      (offers schema options ('/' :: rest)).map seed.offerAll := by
  apply read_of_not_blank
  · rw [isPrefixOf?_scheme_eq_some_iff, ← h, String.ofList_toList]
  · rfl

/-- What follows the scheme succeeds just when all stages do, and then the map takes the offers. -/
theorem read_scheme_append_eq_ok_iff {schema : Schema} {scheme : String} {options : Option String}
    {seed : PropertyMap} {text : String} {rest : List Char} (h : text.toList = '/' :: rest)
    {m : PropertyMap} :
    read schema scheme options seed (scheme ++ text) = .ok m ↔
      ∃ s : Stages, s.Of schema options ('/' :: rest) ∧ seed.offerAll s.entries = m := by
  rw [read_scheme_append schema scheme options seed h]
  constructor
  · intro hm
    cases ho : offers schema options ('/' :: rest) with
    | error e => rw [ho] at hm; cases hm
    | ok entries =>
      rw [ho] at hm
      cases hm
      obtain ⟨s, hs, rfl⟩ := offers_eq_ok_iff.mp ho
      exact ⟨s, hs, rfl⟩
  · rintro ⟨s, hs, rfl⟩
    rw [offers_eq_ok_iff.mpr ⟨s, hs, rfl⟩]
    rfl

/-- A part is read just when its bytes are the text. -/
theorem readPart_eq_ok_iff {property : Property} {part : List Char} {text : String} :
    readPart property part = .ok text ↔
      Utf8.decode? (Percent.decode part) = some text.toList := by
  rw [readPart]
  split
  · next cs h =>
    rw [h, Except.ok.injEq, Option.some.injEq, ← String.toList_inj, String.toList_ofList]
  · next h => simp [h]

/-- A text is read back as a part if the percent sign is escaped in it. -/
theorem readPart_encode {reserved : Char → Bool} (h : reserved '%' = true) (property : Property)
    (cs : List Char) :
    readPart property (Percent.encode reserved cs) = .ok (String.ofList cs) := by
  rw [readPart_eq_ok_iff, Percent.decode_encode h, Utf8.decode?_encode, String.toList_ofList]

/-- The only segment of a path is its first. -/
theorem firstSegment_slash_cons {segment : List Char} (h : '/' ∉ segment) :
    firstSegment ('/' :: segment) = segment := by
  have hslash : ∀ c ∈ segment, (c != '/') = true := fun c hc ↦
    bne_iff_ne.mpr fun he ↦ h (he ▸ hc)
  have hdrop : segment.dropWhile (· == '/') = segment := by
    cases segment with
    | nil => rfl
    | cons c cs =>
      exact List.dropWhile_cons_of_neg (by simpa using hslash c List.mem_cons_self)
  rw [firstSegment, List.dropWhile_cons_of_pos (by decide), hdrop,
    List.takeWhile_eq_self_iff.mpr hslash]

/-- A text that is escaped is the first segment of a path of its own, unless it is one dot or
two. -/
theorem firstSegment_readPathAfterAuthority {reserved : Char → Bool}
    (h : Percent.KeepsApart reserved) {cs : List Char} (h1 : cs ≠ ['.']) (h2 : cs ≠ ['.', '.']) :
    firstSegment (Uri.readPathAfterAuthority ('/' :: Percent.encode reserved cs)) =
      Percent.encode reserved cs := by
  obtain ⟨hs, hd⟩ := Uri.not_dots_of_encode h.percent h1 h2
  rw [Uri.readPathAfterAuthority_segment h.isPlain_of_mem_encode hs hd]
  exact firstSegment_slash_cons fun hm ↦ absurd (h.isPlain_of_mem_encode _ hm) (by decide)

/-- Hosts without a comma are left where they are. -/
theorem separateHosts_of_not_mem {userInfo : Option (List Char)} {hosts rest : List Char}
    (h : IsAuthority userInfo hosts rest) (hc : ',' ∉ hosts) :
    separateHosts ('/' :: '/' :: withUserInfo userInfo (hosts ++ rest)) =
      .ok ('/' :: '/' :: withUserInfo userInfo (hosts ++ rest), none) := by
  rw [separateHosts, h.takeWhile_eq, h.dropWhile_eq, h.splitUserInfo_eq]
  exact if_neg (by simpa using hc)

/-- Hosts with a comma are separated if all entries are addresses, and one host takes their
place. -/
theorem separateHosts_of_mem {userInfo : Option (List Char)} {hosts rest : List Char}
    (h : IsAuthority userInfo hosts rest) (hc : ',' ∈ hosts) :
    separateHosts ('/' :: '/' :: withUserInfo userInfo (hosts ++ rest)) =
      ((ServerAddress.entries hosts).mapM ServerAddress.parse).map fun _ ↦
        ('/' :: '/' :: withUserInfo userInfo (standInHost ++ rest), some hosts) := by
  rw [separateHosts, h.takeWhile_eq, h.dropWhile_eq, h.splitUserInfo_eq]
  dsimp only
  rw [if_pos (by simpa using hc)]
  cases (ServerAddress.entries hosts).mapM ServerAddress.parse with
  | error e => rfl
  | ok addresses =>
    cases userInfo with
    | none => rfl
    | some u => simp [withUserInfo, Except.map, bind, Except.bind, pure, Except.pure]

/-- Hosts with a comma are separated just when all entries are addresses. -/
theorem separateHosts_eq_ok_iff_of_mem {userInfo : Option (List Char)} {hosts rest : List Char}
    (h : IsAuthority userInfo hosts rest) (hc : ',' ∈ hosts) {text : List Char}
    {hostList : Option (List Char)} :
    separateHosts ('/' :: '/' :: withUserInfo userInfo (hosts ++ rest)) = .ok (text, hostList) ↔
      (∀ entry ∈ ServerAddress.entries hosts, (ServerAddress.parse? entry).isSome = true) ∧
        text = '/' :: '/' :: withUserInfo userInfo (standInHost ++ rest) ∧
        hostList = some hosts := by
  rw [separateHosts_of_mem h hc, ← ServerAddress.exists_mapM_parse_iff]
  cases (ServerAddress.entries hosts).mapM ServerAddress.parse with
  | error e =>
    constructor
    · intro he
      cases he
    · rintro ⟨⟨addresses, he⟩, -⟩
      cases he
  | ok addresses =>
    constructor
    · intro he
      cases he
      exact ⟨⟨addresses, rfl⟩, rfl, rfl⟩
    · rintro ⟨-, rfl, rfl⟩
      rfl

end ConnectionConfig.ConnectionString
