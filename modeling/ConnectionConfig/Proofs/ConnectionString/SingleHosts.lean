import ConnectionConfig.Proofs.ConnectionString.Stages
import ConnectionConfig.Proofs.HostGrammar

/-!
# Hosts alone and in a list

A host that stands alone is read as a part of the URI, a host in a list as an address. An IPv6
address without brackets is read in a list only, and a colon without a port after it only behind a
host that stands alone. Any other regular host is read in a list just when it is read alone.
-/

namespace ConnectionConfig.ConnectionString

open PropertyMap (empty)
open ServerAddress (IsBare IsRegular)
open Uri (IsAuthority endsAuthority withUserInfo)

/-- A connection string with the hosts and nothing else is read. -/
def IsRead (hosts : String) : Prop :=
  ∃ m, read Schema.standard scheme none empty (scheme ++ ("//" ++ hosts ++ "/")) = .ok m

instance (hosts : String) : Decidable (IsRead hosts) :=
  match h : read Schema.standard scheme none empty (scheme ++ ("//" ++ hosts ++ "/")) with
  | .ok m => .isTrue ⟨m, h⟩
  | .error e => .isFalse fun ⟨m, hm⟩ ↦ by rw [h] at hm; cases hm

/-- A text that can stand as a host alone or in a list: it is not empty, holds no white space and no
controls, and neither separates hosts nor ends them. -/
structure IsHostEntry (cs : List Char) : Prop where
  ne_nil : cs ≠ []
  visible : ∀ c ∈ cs, 0x20 < c.toNat ∧ Text.isSpace c = false
  no_comma : ',' ∉ cs
  chars : ∀ c ∈ cs, c ≠ '@' ∧ endsAuthority c = false

instance (cs : List Char) : Decidable (IsHostEntry cs) :=
  decidable_of_iff (cs ≠ [] ∧
    cs.all (fun c ↦ 0x20 < c.toNat && !Text.isSpace c) = true ∧ cs.contains ',' = false ∧
    cs.all (fun c ↦ c ≠ '@' && !endsAuthority c) = true)
    ⟨fun h ↦ ⟨h.1, by simpa using h.2.1, by simpa using h.2.2.1, by simpa using h.2.2.2⟩,
      fun h ↦ ⟨h.ne_nil, by simpa using h.visible, by simpa using h.no_comma,
        by simpa using h.chars⟩⟩

private theorem isRead_iff {hosts : String} :
    IsRead hosts ↔ ∃ s : Stages,
      s.Of Schema.standard none ('/' :: '/' :: withUserInfo none (hosts.toList ++ ['/'])) := by
  have htext : ("//" ++ hosts ++ "/").toList =
      '/' :: '/' :: withUserInfo none (hosts.toList ++ ['/']) := by simp [withUserInfo]
  unfold IsRead
  simp only [read_scheme_append_eq_ok_iff htext]
  constructor
  · rintro ⟨m, s, hs, -⟩
    exact ⟨s, hs⟩
  · rintro ⟨s, hs⟩
    exact ⟨_, s, hs, rfl⟩

private theorem isAuthority_slash {hosts : List Char}
    (h : ∀ c ∈ hosts, c ≠ '@' ∧ endsAuthority c = false) : IsAuthority none hosts ['/'] :=
  ⟨by simp, h, by simp [endsAuthority]⟩

private theorem read_host {host : List Char} (h : IsHostEntry host) :
    Uri.read ('/' :: '/' :: withUserInfo none (host ++ ['/'])) =
      Uri.ofAuthority none host ['/'] :=
  Uri.read_withUserInfo (isAuthority_slash h.chars) h.ne_nil fun c hc ↦ (h.visible c hc).1

/-- From a host that is read alone the URI has host and port. -/
theorem exists_readHostAndPort_of_isRead {host : String} (h : IsHostEntry host.toList)
    (hr : IsRead host) : ∃ found, Uri.readHostAndPort host.toList = .ok found := by
  obtain ⟨s, hs⟩ := isRead_iff.mp hr
  have hsep := hs.hosts
  rw [separateHosts_of_not_mem (isAuthority_slash h.chars) h.no_comma, Except.ok.injEq,
    Prod.mk.injEq] at hsep
  have huri := hs.uri
  rw [← hsep.1, read_host h, Uri.ofAuthority_of_ne_nil _ _ h.ne_nil] at huri
  obtain ⟨found, hfound, -⟩ := map_eq_ok_iff.mp huri
  exact ⟨found, hfound⟩

/-- A host is read alone if the URI has host and port from it and nothing is left. -/
theorem isRead_of_readHostAndPort {host : String} {found : List Char} {port : Option UInt16}
    (h : IsHostEntry host.toList)
    (hr : Uri.readHostAndPort host.toList = .ok (found, port, [])) : IsRead host := by
  have huri := read_host h
  rw [Uri.ofAuthority_of_ne_nil _ _ h.ne_nil, hr] at huri
  exact isRead_iff.mpr ⟨⟨_, none, _, "", [], "", [], []⟩,
    separateHosts_of_not_mem (isAuthority_slash h.chars) h.no_comma, huri, rfl, rfl, rfl, rfl, rfl⟩

private theorem read_standInHost :
    Uri.read ('/' :: '/' :: withUserInfo none (standInHost ++ ['/'])) = .ok {
      user := [], password := none, host := standInHost, port := none
      path := ['/'], query := none } := by
  rfl

/-- Hosts with a comma are read just when all entries are addresses. -/
theorem isRead_iff_of_comma {hosts : String} (hc : ',' ∈ hosts.toList)
    (h : ∀ c ∈ hosts.toList, c ≠ '@' ∧ endsAuthority c = false) :
    IsRead hosts ↔ ∀ entry ∈ ServerAddress.entries hosts.toList,
      (ServerAddress.parse? entry).isSome = true := by
  have hsep {text : List Char} {hostList : Option (List Char)} :=
    @separateHosts_eq_ok_iff_of_mem none _ _ (isAuthority_slash h) hc text hostList
  rw [isRead_iff]
  constructor
  · rintro ⟨s, hs⟩
    exact (hsep.mp hs.hosts).1
  · intro hentries
    exact ⟨⟨_, some hosts.toList, _, "", [], "", [], []⟩, hsep.mpr ⟨hentries, rfl, rfl⟩,
      read_standInHost, rfl, rfl, rfl, rfl, rfl⟩

/-- A list of two hosts or more is read just when each of them is an address. -/
theorem isRead_intercalate_iff {hosts : List String} (hmany : 2 ≤ hosts.length)
    (h : ∀ host ∈ hosts, IsHostEntry host.toList) :
    IsRead (",".intercalate hosts) ↔
      ∀ host ∈ hosts, (ServerAddress.parse? host).isSome = true := by
  obtain ⟨first, second, rest, rfl⟩ : ∃ first second rest, hosts = first :: second :: rest := by
    match hosts, hmany with
    | first :: second :: rest, _ => exact ⟨first, second, rest, rfl⟩
  let texts := (first :: second :: rest).map String.toList
  have htexts : ∀ text ∈ texts, IsHostEntry text := List.forall_mem_map.mpr h
  have hlist : (",".intercalate (first :: second :: rest)).toList = [','].intercalate texts :=
    String.toList_intercalate
  have hentries : ServerAddress.entries ([','].intercalate texts) = first :: second :: rest := by
    rw [ServerAddress.entries_intercalate (by simp [texts]) fun text ht c hc ↦
      ⟨fun he ↦ (htexts text ht).no_comma (he ▸ hc), ((htexts text ht).visible c hc).2⟩]
    simp [texts]
  have hcomma : ',' ∈ [','].intercalate texts := by simp [texts, List.intercalate_cons_cons]
  have hchars : ∀ c ∈ [','].intercalate texts, c ≠ '@' ∧ endsAuthority c = false := by
    intro c hc
    rcases Text.mem_intercalate hc with rfl | ⟨text, ht, hc⟩
    · decide
    · exact (htexts text ht).chars c hc
  rw [isRead_iff_of_comma (hlist ▸ hcomma) (hlist ▸ hchars), hlist, hentries]

/-- Hosts that are read alone make up a list that is read, but for those that end in a colon or hold
a backslash; IPv6 addresses without brackets may be among them. The other way round each regular
host in a list that is read is read alone, but for IPv6 addresses without brackets, and does not end
in a colon. -/
theorem isRead_alone_and_in_list {hosts : List String} (hmany : 2 ≤ hosts.length)
    (h : ∀ host ∈ hosts, IsHostEntry host.toList) :
    ((∀ host ∈ hosts, IsBare host.toList ∨
        IsRead host ∧ host.toList.getLast? ≠ some ':' ∧ '\\' ∉ host.toList) →
      IsRead (",".intercalate hosts)) ∧
    (IsRead (",".intercalate hosts) → ∀ host ∈ hosts, IsRegular host.toList →
      IsBare host.toList ∨ IsRead host ∧ host.toList.getLast? ≠ some ':') := by
  rw [isRead_intercalate_iff hmany h]
  constructor
  · intro halone host hm
    rw [← String.ofList_toList (s := host)]
    rcases halone host hm with hbare | ⟨hread, hend, hslash⟩
    · exact ServerAddress.isSome_parse?_of_isBare hbare
    · obtain ⟨⟨found, port, rest⟩, hfound⟩ := exists_readHostAndPort_of_isRead (h host hm) hread
      exact ServerAddress.isSome_parse?_of_isSharedHost
        (Uri.isSharedHost_of_readHostAndPort hfound (h host hm).ne_nil hslash hend)
  · intro hlist host hm hregular
    have hparse := hlist host hm
    rw [← String.ofList_toList (s := host)] at hparse
    rcases ServerAddress.isBare_or_isSharedHost hparse hregular with hbare | hshared
    · exact .inl hbare
    · obtain ⟨found, port, hfound⟩ := hshared.exists_readHostAndPort
      exact .inr ⟨isRead_of_readHostAndPort (h host hm) hfound, hshared.getLast?_ne⟩

/-- A host with a port, an IPv6 address in brackets with a port, and one without brackets. -/
theorem isRead_alone_and_in_list_three_hosts :
    IsRead (",".intercalate ["h_1:27017", "[::1]:8", "fe80::1"]) ∧ IsRead "[::1]:8" := by
  obtain ⟨hlist, halone⟩ := @isRead_alone_and_in_list ["h_1:27017", "[::1]:8", "fe80::1"]
    (by decide) (by decide +kernel)
  have hread := hlist (by decide +kernel)
  refine ⟨hread, ?_⟩
  rcases halone hread "[::1]:8" (by decide) (by decide +kernel) with hbare | ⟨hone, -⟩
  · exact absurd hbare (by decide)
  · exact hone

/-- An IPv6 address without brackets is read in a list, but not alone; a host with a colon and no
port after it is read alone, but not in a list. -/
theorem not_isRead_alone_iff_in_list :
    (∀ host ∈ ["fe80::1", "h1:", "h2"], IsHostEntry host.toList) ∧
    (IsRead (",".intercalate ["fe80::1", "h2"]) ∧ ¬ ∀ host ∈ ["fe80::1", "h2"], IsRead host) ∧
    (¬ IsRead (",".intercalate ["h1:", "h2"]) ∧ ∀ host ∈ ["h1:", "h2"], IsRead host) := by
  decide +kernel

end ConnectionConfig.ConnectionString
