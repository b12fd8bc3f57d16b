import ConnectionConfig.Proofs.ConnectionString.Entries

/-!
# Why a connection string is not read

There are seven places where something can be wrong with what follows the scheme. Each is told for
itself, without regard to the others: what is wrong there and what the error says of it. Reading
fails just when something is wrong, and the error is that of the first such place. What the other
places hold makes no difference, and neither does the map that takes the offers.
-/

namespace ConnectionConfig.ConnectionString

open Uri (withUserInfo IsAuthority)

/-- Where something can be wrong with what follows the scheme. -/
inductive Place where
  | hosts
  | uri
  | user
  | password
  | database
  | query
  | options
  deriving DecidableEq

/-- All places, in the order in which they are looked at. -/
def Place.all : List Place := [.hosts, .uri, .user, .password, .database, .query, .options]

/-- Every place is looked at. -/
theorem Place.mem_all (place : Place) : place ∈ Place.all := by cases place <;> decide

/-- A remainder has the parts of a URI once the list of hosts is separated. -/
def HasUri (remainder : List Char) (uri : Uri) : Prop :=
  ∃ text hostList, IsSeparated remainder text hostList ∧ Uri.read text = .ok uri

/-- A segment is no option: it is not empty, and has no equals sign. The error shows it. -/
def IsMalformedOption (segment : List Char) (e : ConnectionError) : Prop :=
  segment ≠ [] ∧ '=' ∉ segment ∧ e = .malformedOption (String.ofList segment)

/-- What can be wrong at each place, and the error that tells it: a list of hosts with an entry that
is no address, a text that is no URI, a user name, a password or a first segment of the path that
stands for no text, and a segment of the query or the options that is no option. The error about a
password does not show it. -/
inductive HasFault (options : Option String) (remainder : List Char) :
    Place → ConnectionError → Prop
  | hosts {userInfo : Option (List Char)} {hosts rest : List Char} {entry : String}
      (text : remainder = '/' :: '/' :: withUserInfo userInfo (hosts ++ rest))
      (authority : IsAuthority userInfo hosts rest) (comma : ',' ∈ hosts)
      (first : ServerAddress.IsFirstInvalid
        ((hosts.splitOn ',').map fun part ↦ String.ofList (Text.trimChars part)) entry) :
      HasFault options remainder .hosts (.invalidAddress entry)
  | uri {text : List Char} {hostList : Option (List Char)} {cause : UriError}
      (separated : IsSeparated remainder text hostList) (read : Uri.read text = .error cause) :
      HasFault options remainder .uri (.malformedUri cause)
  | user {uri : Uri} (hasUri : HasUri remainder uri) (no_text : ∀ text, ¬ StandsFor uri.user text) :
      HasFault options remainder .user
        (.invalidValue Property.user.name (String.ofList uri.user))
  | password {uri : Uri} {password : List Char} (hasUri : HasUri remainder uri)
      (present : uri.password = some password) (no_text : ∀ text, ¬ StandsFor password text) :
      HasFault options remainder .password
        (.invalidValue Property.password.name "<password>")
  | database {uri : Uri} {segment : List Char} (hasUri : HasUri remainder uri)
      (first : IsFirstSegment uri.path segment) (no_text : ∀ text, ¬ StandsFor segment text) :
      HasFault options remainder .database
        (.invalidValue Property.database.name (String.ofList segment))
  | query {uri : Uri} {e : ConnectionError} (hasUri : HasUri remainder uri)
      (first : IsFirstError IsMalformedOption ((uri.query.getD []).splitOn '&') e) :
      HasFault options remainder .query e
  | options {e : ConnectionError}
      (first : IsFirstError IsMalformedOption
        (((options.getD "").toList.splitOn ';').map Text.trimChars) e) :
      HasFault options remainder .options e

/-- The parts of a remainder are found in one way. -/
theorem HasUri.unique {remainder : List Char} {uri uri' : Uri} (h : HasUri remainder uri)
    (h' : HasUri remainder uri') : uri = uri' := by
  obtain ⟨text, hostList, hseparated, hread⟩ := h
  obtain ⟨text', hostList', hseparated', hread'⟩ := h'
  obtain ⟨rfl, -⟩ := hseparated.unique hseparated'
  rw [hread] at hread'
  exact Except.ok.inj hread'

/-! ## What fails at each place -/

section Places

variable {options : Option String} {remainder : List Char} {uri : Uri} {e : ConnectionError}

/-- Separating the hosts fails just when they are a list with an entry that is no address. -/
theorem separateHosts_eq_error_iff :
    separateHosts remainder = .error e ↔ HasFault options remainder .hosts e := by
  constructor
  · intro h
    by_cases hslashes : ∃ rest, remainder = '/' :: '/' :: rest
    · obtain ⟨rest, rfl⟩ := hslashes
      obtain ⟨userInfo, hosts, rest, ha, rfl⟩ := Uri.exists_isAuthority rest
      by_cases hc : ',' ∈ hosts
      · rw [separateHosts_of_mem ha hc, map_eq_error_iff,
          ServerAddress.mapM_parse_eq_error_iff] at h
        obtain ⟨entry, hentry, rfl⟩ := h
        exact .hosts rfl ha hc hentry
      · rw [separateHosts_of_not_mem ha hc] at h
        cases h
    · rw [separateHosts_of_not_slashes fun rest he ↦ hslashes ⟨rest, he⟩] at h
      cases h
  · intro h
    cases h with
    | hosts htext ha hc hentry =>
      rw [htext, separateHosts_of_mem ha hc, map_eq_error_iff,
        ServerAddress.mapM_parse_eq_error_iff]
      exact ⟨_, hentry, rfl⟩

/-- The rest fails just when it is no URI. -/
theorem mapError_read_eq_error_iff {text : List Char} {hostList : Option (List Char)}
    (h : IsSeparated remainder text hostList) :
    (Uri.read text).mapError ConnectionError.malformedUri = .error e ↔
      HasFault options remainder .uri e := by
  constructor
  · intro he
    cases hread : Uri.read text with
    | error cause =>
      rw [hread] at he
      cases he
      exact .uri h hread
    | ok uri =>
      rw [hread] at he
      cases he
  · intro he
    cases he with
    | uri hseparated hread =>
      obtain ⟨rfl, -⟩ := hseparated.unique h
      rw [hread]
      rfl

/-- Reading a part fails just when it stands for no text. -/
theorem readPart_eq_error_iff {property : Property} {part : List Char} :
    readPart property part = .error e ↔
      (∀ text, ¬ StandsFor part text) ∧ e = .invalidValue property.name (shown property part) := by
  simp only [StandsFor]
  rw [readPart]
  split
  · next cs h =>
    constructor
    · intro he
      cases he
    · rintro ⟨hnone, -⟩
      exact absurd (by rw [h, String.toList_ofList]) (hnone (String.ofList cs))
  · next h => simp [h, eq_comm]

private theorem readUser_eq_error_iff (h : HasUri remainder uri) :
    readPart .user uri.user = .error e ↔ HasFault options remainder .user e := by
  rw [readPart_eq_error_iff]
  constructor
  · rintro ⟨hnone, rfl⟩
    exact .user h hnone
  · intro he
    cases he with
    | user huri hnone =>
      cases huri.unique h
      exact ⟨hnone, rfl⟩

private theorem readPassword_eq_error_iff (h : HasUri remainder uri) :
    uri.password.toList.mapM (readPart .password) = .error e ↔
      HasFault options remainder .password e := by
  constructor
  · intro he
    cases hpassword : uri.password with
    | none =>
      rw [hpassword] at he
      cases he
    | some password =>
      rw [hpassword, Option.toList_some, mapM_cons_eq_error_iff, readPart_eq_error_iff] at he
      rcases he with ⟨hnone, rfl⟩ | ⟨-, he⟩
      · exact .password h hpassword hnone
      · cases he
  · intro he
    cases he with
    | password huri hpassword hnone =>
      cases huri.unique h
      rw [hpassword, Option.toList_some, mapM_cons_eq_error_iff, readPart_eq_error_iff]
      exact .inl ⟨hnone, rfl⟩

private theorem readDatabase_eq_error_iff (h : HasUri remainder uri) :
    readPart .database (firstSegment uri.path) = .error e ↔
      HasFault options remainder .database e := by
  rw [readPart_eq_error_iff]
  constructor
  · rintro ⟨hnone, rfl⟩
    exact .database h (isFirstSegment_firstSegment uri.path) hnone
  · intro he
    cases he with
    | database huri hfirst hnone =>
      cases huri.unique h
      rw [hfirst.firstSegment_eq]
      exact ⟨hnone, rfl⟩

private theorem readOption_eq_error_iff {segment : List Char} :
    readOption segment = .error e ↔
      '=' ∉ segment ∧ e = .malformedOption (String.ofList segment) := by
  rw [readOption, ← Text.cutFirst?_eq_none_iff]
  cases Text.cutFirst? '=' segment with
  | none => simp [eq_comm]
  | some pair => simp

private theorem mapM_readOption_eq_error_iff {segments : List (List Char)} :
    (segments.filter fun segment ↦ !segment.isEmpty).mapM readOption = .error e ↔
      IsFirstError IsMalformedOption segments e := by
  rw [mapM_eq_error_iff_isFirstError, isFirstError_filter_iff]
  simp only [readOption_eq_error_iff, Bool.not_eq_true', List.isEmpty_eq_false_iff]
  rfl

private theorem readQuery_eq_error_iff {schema : Schema} (h : HasUri remainder uri) :
    readQuery schema (uri.query.getD []) = .error e ↔ HasFault options remainder .query e := by
  rw [readQuery, bind_eq_error_iff, mapM_readOption_eq_error_iff]
  constructor
  · rintro (hfirst | ⟨_, -, he⟩)
    · exact .query h hfirst
    · cases he
  · intro he
    cases he with
    | query huri hfirst =>
      cases huri.unique h
      exact .inl hfirst

private theorem readOptions_eq_error_iff :
    readOptions (options.getD "") = .error e ↔ HasFault options remainder .options e := by
  rw [readOptions, bind_eq_error_iff, mapM_readOption_eq_error_iff]
  constructor
  · rintro (hfirst | ⟨_, -, he⟩)
    · exact .options hfirst
    · cases he
  · intro he
    cases he with
    | options hfirst => exact .inl hfirst

end Places

/-! ## What fails first -/

/-- Offers fail with the error of the first place where something is wrong. -/
theorem offers_eq_error_iff {schema : Schema} {options : Option String} {remainder : List Char}
    {e : ConnectionError} :
    offers schema options remainder = .error e ↔
      IsFirstError (HasFault options remainder) Place.all e := by
  rw [offers]
  -- One step for each place, in their order. What an earlier step found says what the next one
  -- looks at, and it is what the place itself says, since the parts are found in one way.
  refine bind_eq_error_iff_isFirstError (fun _ ↦ separateHosts_eq_error_iff) ?_
  rintro ⟨text, hostList⟩ hhosts
  have hseparated := isSeparated_of_separateHosts hhosts
  refine bind_eq_error_iff_isFirstError (fun _ ↦ mapError_read_eq_error_iff hseparated) ?_
  intro uri huri
  have hasUri : HasUri remainder uri :=
    ⟨text, hostList, hseparated, mapError_eq_ok_iff.mp huri⟩
  refine bind_eq_error_iff_isFirstError (fun _ ↦ readUser_eq_error_iff hasUri) fun _ _ ↦ ?_
  refine bind_eq_error_iff_isFirstError (fun _ ↦ readPassword_eq_error_iff hasUri) fun _ _ ↦ ?_
  refine bind_eq_error_iff_isFirstError (fun _ ↦ readDatabase_eq_error_iff hasUri) fun _ _ ↦ ?_
  refine bind_eq_error_iff_isFirstError (fun _ ↦ readQuery_eq_error_iff hasUri) fun _ _ ↦ ?_
  refine bind_eq_error_iff_isFirstError (fun _ ↦ readOptions_eq_error_iff) fun _ _ ↦ ?_
  constructor
  · intro h
    cases h
  · exact fun h ↦ absurd h not_isFirstError_nil

private theorem read_append_eq_error_iff {schema : Schema} {scheme : String}
    {options : Option String} {seed : PropertyMap} {remainder : String} {e : ConnectionError} :
    read schema scheme options seed (scheme ++ remainder) = .error e ↔
      Text.isBlank remainder = false ∧
        IsFirstError (HasFault options remainder.toList) Place.all e := by
  rw [read_append]
  cases Text.isBlank remainder with
  | true => simp
  | false => simp [map_eq_error_iff, offers_eq_error_iff]

/-- Reading fails without the scheme, and otherwise with the first place where something is wrong
with what follows it, unless that is nothing but white space. -/
theorem read_eq_error_iff {schema : Schema} {scheme : String} {options : Option String}
    {seed : PropertyMap} {text : String} {e : ConnectionError} :
    read schema scheme options seed text = .error e ↔
      (∀ remainder, text ≠ scheme ++ remainder) ∧ e = .missingScheme scheme ∨
      ∃ remainder, text = scheme ++ remainder ∧ Text.isBlank remainder = false ∧
        IsFirstError (HasFault options remainder.toList) Place.all e := by
  by_cases hscheme : ∃ remainder, text = scheme ++ remainder
  · obtain ⟨remainder, rfl⟩ := hscheme
    rw [read_append_eq_error_iff]
    constructor
    · exact fun h ↦ .inr ⟨remainder, rfl, h⟩
    · rintro (⟨hno, -⟩ | ⟨remainder', he, h⟩)
      · exact absurd rfl (hno remainder)
      · rwa [(String.append_right_inj scheme).mp he]
  · rw [not_exists] at hscheme
    have hnone : scheme.toList.isPrefixOf? text.toList = none :=
      Option.eq_none_iff_forall_ne_some.mpr fun _ h ↦
        hscheme _ (isPrefixOf?_scheme_eq_some_iff.mp h)
    rw [read_of_missing_scheme schema options seed hnone]
    constructor
    · intro h
      cases h
      exact .inl ⟨hscheme, rfl⟩
    · rintro (⟨-, rfl⟩ | ⟨remainder, he, -⟩)
      · rfl
      · exact absurd he (hscheme remainder)

/-- When and how reading fails: without the scheme, and if something is wrong with what follows the
scheme, unless that is nothing but white space. The error is that of the first place with any: an
entry of the list of hosts that is no address, the rest that is no URI, the user name, the password
or the database that stands for no text, a segment of the query that is no option, and a segment of
the options for all connections that is none. -/
theorem read_fails_at_first_place (schema : Schema) (scheme : String)
    (options : Option String) (seed : PropertyMap) (text : String) :
    (∀ e, read schema scheme options seed text = .error e ↔
      (∀ remainder, text ≠ scheme ++ remainder) ∧ e = .missingScheme scheme ∨
      ∃ remainder, text = scheme ++ remainder ∧ Text.isBlank remainder = false ∧
        IsFirstError (HasFault options remainder.toList) Place.all e) ∧
    ((∃ e, read schema scheme options seed text = .error e) ↔
      (∀ remainder, text ≠ scheme ++ remainder) ∨
      ∃ remainder, text = scheme ++ remainder ∧ Text.isBlank remainder = false ∧
        ∃ place e, HasFault options remainder.toList place e) := by
  refine ⟨fun e ↦ read_eq_error_iff, ?_⟩
  have hany : ∀ remainder : String,
      (∃ e, IsFirstError (HasFault options remainder.toList) Place.all e) ↔
        ∃ place e, HasFault options remainder.toList place e := by
    intro remainder
    rw [exists_isFirstError_iff]
    exact ⟨fun ⟨place, _, h⟩ ↦ ⟨place, h⟩, fun ⟨place, h⟩ ↦ ⟨place, Place.mem_all place, h⟩⟩
  constructor
  · rintro ⟨e, he⟩
    rcases read_eq_error_iff.mp he with ⟨hno, -⟩ | ⟨remainder, htext, hblank, hfirst⟩
    · exact .inl hno
    · exact .inr ⟨remainder, htext, hblank, (hany remainder).mp ⟨e, hfirst⟩⟩
  · rintro (hno | ⟨remainder, htext, hblank, hfault⟩)
    · exact ⟨_, read_eq_error_iff.mpr (.inl ⟨hno, rfl⟩)⟩
    · obtain ⟨e, hfirst⟩ := (hany remainder).mpr hfault
      exact ⟨e, read_eq_error_iff.mpr (.inr ⟨remainder, htext, hblank, hfirst⟩)⟩

/-- The second entry of a list is no address, and neither is the third; the user name and the
database stand for no text, but come later. After one host that is in order, the first segment of the
path is the database, and the second one, the query and the options come later. -/
theorem read_fails_at_entry_and_at_database :
    read Schema.standard scheme (some "w") PropertyMap.empty
        (scheme ++ "//ann%FF@h1:1, h2:x ,/%FD") = .error (.invalidAddress "h2:x") ∧
      read Schema.standard scheme (some "w") PropertyMap.empty
        (scheme ++ "//ann@h1//%FD/%FE?tls") = .error (.invalidValue "database" "%FD") := by
  constructor
  · let hosts := "h1:1, h2:x ,".toList
    have hauthority : IsAuthority (some "ann%FF".toList) hosts "/%FD".toList := by
      refine ⟨?_, Text.forall_mem_of_all (by decide), ?_⟩
      · rintro u ⟨⟩
        exact Text.forall_mem_of_all (by decide)
      · rintro c ⟨⟩
        rfl
    have hentry : ServerAddress.IsFirstInvalid
        ((hosts.splitOn ',').map fun part ↦ String.ofList (Text.trimChars part)) "h2:x" :=
      ⟨["h1:1"], [""], by decide +kernel, by decide +kernel, by decide +kernel⟩
    have hfault : HasFault (some "w") "//ann%FF@h1:1, h2:x ,/%FD".toList .hosts
        (.invalidAddress "h2:x") :=
      .hosts (by decide +kernel) hauthority (by decide +kernel) hentry
    exact ((read_fails_at_first_place _ _ _ _ _).1 _).mpr
      (.inr ⟨_, rfl, by decide +kernel, [], .hosts, _, rfl, hfault, by simp⟩)
  · let remainder := "//ann@h1//%FD/%FE?tls"
    let uri : Uri :=
      ⟨"ann".toList, none, "h1".toList, none, "//%FD/%FE".toList, some "tls".toList⟩
    have hseparated : separateHosts remainder.toList = .ok (remainder.toList, none) := by
      decide +kernel
    have hread : Uri.read remainder.toList = .ok uri := by decide +kernel
    have hasUri : HasUri remainder.toList uri :=
      ⟨_, _, isSeparated_of_separateHosts hseparated, hread⟩
    have hfirst : IsFirstSegment ("//".toList ++ "%FD".toList ++ "/%FE".toList) "%FD".toList :=
      .of_append (Text.forall_mem_of_all (by decide)) (by decide) (by rintro c ⟨⟩; rfl) (by decide)
    have hbytes : Utf8.decode? (Percent.decode "%FD".toList) = none := by decide +kernel
    have hfault : HasFault (some "w") remainder.toList .database
        (.invalidValue "database" "%FD") := by
      refine .database hasUri hfirst fun text (htext : Utf8.decode? _ = _) ↦ ?_
      cases hbytes.symm.trans htext
    have hearlier : ∀ place ∈ [Place.hosts, .uri, .user, .password], ∀ e,
        ¬ HasFault (some "w") remainder.toList place e := by
      intro place hplace e he
      simp only [List.mem_cons, List.not_mem_nil, or_false] at hplace
      rcases hplace with rfl | rfl | rfl | rfl
      · rw [← separateHosts_eq_error_iff, hseparated] at he
        cases he
      · rw [← mapError_read_eq_error_iff (isSeparated_of_separateHosts hseparated), hread] at he
        cases he
      · have huser : readPart .user uri.user = .ok "ann" := by decide +kernel
        rw [← readUser_eq_error_iff hasUri, huser] at he
        cases he
      · rw [← readPassword_eq_error_iff hasUri] at he
        cases he
    exact ((read_fails_at_first_place _ _ _ _ _).1 _).mpr
      (.inr ⟨remainder, rfl, by decide +kernel, _, .database, _, rfl, hfault, hearlier⟩)

end ConnectionConfig.ConnectionString
