import ConnectionConfig.Proofs.ConnectionString.PlainHosts

/-!
# A list of hosts is read as one host

While the rest of a connection string is read, one host stands in for a list of hosts. Any other
plain name in its place would do as well: user information, path and query are found at the same
places, and the outcome differs in the host alone.
-/

namespace ConnectionConfig

namespace Uri

/-- User information as it stands in front of the hosts: none, or what goes up to an at sign. -/
def IsUserInfoText (cs : List Char) : Prop :=
  cs = [] ∨ cs.getLast? = some '@' ∧ ∀ c ∈ cs, endsAuthority c = false

instance (cs : List Char) : Decidable (IsUserInfoText cs) :=
  decidable_of_iff (cs = [] ∨ cs.getLast? = some '@' ∧ cs.all (fun c ↦ !endsAuthority c) = true)
    (by simp [IsUserInfoText])

private theorem IsUserInfoText.exists_eq {cs : List Char} (h : IsUserInfoText cs) :
    ∃ userInfo, (∀ u ∈ userInfo, ∀ c ∈ u, endsAuthority c = false) ∧
      ∀ text, cs ++ text = withUserInfo userInfo text := by
  rcases h with rfl | ⟨hlast, hends⟩
  · exact ⟨none, by simp, fun text ↦ rfl⟩
  · obtain ⟨u, rfl⟩ := List.getLast?_eq_some_iff.mp hlast
    refine ⟨some u, fun v hv c hc ↦ ?_, fun text ↦ by simp [withUserInfo]⟩
    cases hv
    exact hends c (List.mem_append_left _ hc)

private theorem IsName.isAuthority {userInfo : Option (List Char)} {rest name : List Char}
    (h : IsName name) (hu : ∀ u ∈ userInfo, ∀ c ∈ u, endsAuthority c = false)
    (hr : ∀ c ∈ rest.head?, endsAuthority c = true) : IsAuthority userInfo name rest := by
  refine ⟨hu, fun c hc ↦ ?_, hr⟩
  have hspec := isHostChar_spec (isHostChar_of_isName h c hc)
  exact ⟨hspec.1, hspec.2.1⟩

/-- The URIs with a name as their host have the same other parts. -/
theorem exists_read_eq_of_isName {userInfo : Option (List Char)} {rest : List Char}
    (hu : ∀ u ∈ userInfo, ∀ c ∈ u, endsAuthority c = false)
    (hr : ∀ c ∈ rest.head?, endsAuthority c = true) :
    ∃ uri : Uri, uri.port = none ∧ ∀ name, IsName name →
      read ('/' :: '/' :: withUserInfo userInfo (name ++ rest)) =
        .ok { uri with host := name } := by
  let credentials := readUserInfo ((userInfo.map fun u ↦ u.filter fun c ↦ !isIgnored c).getD [])
  refine ⟨{
    user := credentials.1, password := credentials.2, host := [], port := none
    path := readPathAfterAuthority ((clean rest).takeWhile fun c ↦ !endsPath c)
    query := readQuery ((clean rest).dropWhile fun c ↦ !endsPath c) }, rfl, fun name hname ↦ ?_⟩
  have hlt : ∀ c ∈ name, 0x20 < c.toNat := fun c hc ↦
    (isHostChar_spec (isHostChar_of_isName hname c hc)).2.2
  have hread : readHostAndPort name = .ok (name, none, []) := by
    have := readHostAndPort_append_portText (.inl hname) none
    rwa [portText, List.append_nil] at this
  rw [read_withUserInfo (hname.isAuthority hu hr) hname.ne_nil hlt,
    ofAuthority_of_ne_nil _ _ hname.ne_nil, hread]
  rfl

end Uri

namespace ConnectionString

open Uri (IsUserInfoText endsAuthority withUserInfo)

/-- A list of hosts and any name in its place offer the same, but for the host, which is offered
first and as it stands in the text. -/
theorem exists_offers_eq_of_isHostList (schema : Schema) (options : Option String)
    {userInfo : Option (List Char)} {rest : List Char}
    (hu : ∀ u ∈ userInfo, ∀ c ∈ u, endsAuthority c = false)
    (hr : ∀ c ∈ rest.head?, endsAuthority c = true) :
    ∃ outcome : Except ConnectionError (List (String × String)),
      ∀ hosts, IsHostList hosts ∨ Uri.IsName hosts ∧ ',' ∉ hosts →
        offers schema options ('/' :: '/' :: withUserInfo userInfo (hosts ++ rest)) =
          outcome.map fun others ↦ (Property.host.name, String.ofList hosts) :: others := by
  obtain ⟨uri, hport, hread⟩ := Uri.exists_read_eq_of_isName hu hr
  refine ⟨offersAfterHost schema options uri, ?_⟩
  rintro hosts (hlist | ⟨hname, hcomma⟩)
  · have hseparated := (separateHosts_eq_ok_iff_of_mem ⟨hu, hlist.chars, hr⟩ hlist.comma).mpr
      ⟨hlist.entries, rfl, rfl⟩
    rw [offers_eq_of_read hseparated (hread standInHost (by decide +kernel))]
    rfl
  · have hseparated := separateHosts_of_not_mem (hname.isAuthority hu hr) hcomma
    rw [offers_eq_of_read hseparated (hread hosts hname), Option.getD_none, hostText_eq]
    simp only [hport, Uri.portText, List.append_nil]
    rfl

/-- A list of addresses and a plain name in its place are read alike: both readings fail with the
same error, or both succeed with the same entries but for the host of the connection string. That is
the list as it stands in the text, not the host that stands in for it meanwhile. -/
theorem read_hostList_eq_read_name (schema : Schema) (scheme : String) (options : Option String)
    (seed : PropertyMap) {userInfo hosts name rest : String}
    (hu : IsUserInfoText userInfo.toList) (hhosts : IsHostList hosts.toList)
    (hname : IsPlainName name.toList)
    (hr : ∀ c ∈ rest.toList.head?, endsAuthority c = true) :
    let readHosts (text : String) :=
      read schema scheme options seed (scheme ++ ("//" ++ userInfo ++ text ++ rest))
    (∃ e, readHosts hosts = .error e ∧ readHosts name = .error e) ∨
    ∃ m m' others, readHosts hosts = .ok m ∧ readHosts name = .ok m' ∧
      m.toList = seed.toList ++ (if seed.contains Property.host.name = true then others
        else (Property.host.name, hosts) :: others) ∧
      m'.toList = seed.toList ++ (if seed.contains Property.host.name = true then others
        else (Property.host.name, name) :: others) ∧
      m.host? = some (seed.host?.getD hosts) ∧ m'.host? = some (seed.host?.getD name) := by
  intro readHosts
  obtain ⟨info, hends, hinfo⟩ := hu.exists_eq
  obtain ⟨outcome, hoffers⟩ := exists_offers_eq_of_isHostList schema options hends hr
  have hread : ∀ text : String, IsHostList text.toList ∨ Uri.IsName text.toList ∧
      ',' ∉ text.toList → readHosts text =
        outcome.map fun others ↦ seed.offerAll ((Property.host.name, text) :: others) := by
    intro text htext
    have hchars : ("//" ++ userInfo ++ text ++ rest).toList =
        '/' :: '/' :: withUserInfo info (text.toList ++ rest.toList) := by
      simp [← hinfo]
    show read _ _ _ _ _ = _
    rw [read_scheme_append _ _ _ _ hchars, hoffers _ htext, String.ofList_toList]
    cases outcome with
    | error e => rfl
    | ok others => rfl
  have hhostsRead := hread hosts (.inl hhosts)
  have hcomma : ',' ∉ name.toList := fun hm ↦
    (mem_plainEntry (isPlainEntry_of_isPlainName hname) ',' hm).1 rfl
  have hnameRead := hread name (.inr ⟨isName_of_isPlainName hname, hcomma⟩)
  cases outcome with
  | error e => exact .inl ⟨e, hhostsRead, hnameRead⟩
  | ok entries =>
    have hhostsBlank : Text.isBlank hosts = false :=
      Text.isBlank_eq_false_of_mem hhosts.comma (by decide)
    have hnameBlank : Text.isBlank name = false :=
      isBlank_of_isPlainHosts (isPlainHosts_of_isPlainName hname)
    obtain ⟨others, hothers⟩ :=
      PropertyMap.exists_toList_offerAll_cons seed Property.host.name entries
    exact .inr ⟨_, _, others, hhostsRead, hnameRead, hothers hosts hhostsBlank,
      hothers name hnameBlank, PropertyMap.get?_offerAll_cons_self entries hhostsBlank,
      PropertyMap.get?_offerAll_cons_self entries hnameBlank⟩

/-- A password with a comma and an at sign before two hosts, one of them an IPv6 address. -/
theorem read_hostList_eq_read_name_comma_in_password :
    let seed := PropertyMap.ofList [("user", "bob")]
    let readHosts (text : String) := read Schema.standard scheme none seed
      (scheme ++ ("//" ++ "ann:p,@w@" ++ text ++ "/d?tls=true#h"))
    let others := [("password", "p,@w"), ("database", "d"), ("tls", "true")]
    ∃ m m', readHosts "h1:1, [::1]" = .ok m ∧ readHosts "h-1" = .ok m' ∧
      m.toList = [("user", "bob"), ("host", "h1:1, [::1]")] ++ others ∧
      m'.toList = [("user", "bob"), ("host", "h-1")] ++ others := by
  intro seed readHosts others
  have hread : (readHosts "h-1").toOption.map PropertyMap.toList =
      some ([("user", "bob"), ("host", "h-1")] ++ others) := by decide +kernel
  have hseed : seed.toList = [("user", "bob")] ∧
      seed.contains Property.host.name = false := by decide +kernel
  have hu : IsUserInfoText "ann:p,@w@".toList := by decide +kernel
  have hhosts : IsHostList "h1:1, [::1]".toList := by decide +kernel
  have hname : IsPlainName "h-1".toList := by decide +kernel
  have hr : ∀ c ∈ "/d?tls=true#h".toList.head?, endsAuthority c = true := by
    intro c hc
    cases hc
    rfl
  rcases read_hostList_eq_read_name Schema.standard scheme none seed hu hhosts hname hr with
    ⟨e, -, he⟩ | ⟨m, m', found, hm, hm', hlist, hlist', -, -⟩
  · rw [show readHosts "h-1" = _ from he] at hread
    cases hread
  · rw [hseed.1, hseed.2] at hlist hlist'
    rw [show readHosts "h-1" = _ from hm'] at hread
    have hall : m'.toList = _ := Option.some.inj hread
    have hfound : Property.host.name = "host" ∧ found = others := by
      rw [hlist'] at hall
      simpa using hall
    rw [hfound.2] at hlist hlist'
    exact ⟨m, m', hm, hm', hlist, hlist'⟩

end ConnectionString

end ConnectionConfig
