import ConnectionConfig.ClientProfile
import ConnectionConfig.Proofs.ConnectionString.Entries
import ConnectionConfig.Proofs.ConnectionString.PublicForm
import ConnectionConfig.Proofs.ServerAddress

/-!
# The addresses behind a host

The host of a connection string is checked when the connection string is read, kept as text, and
taken apart once more when a client asks for its servers. Both readings agree: a list of hosts gives
one address for each of its entries, and one host gives its own address.
-/

namespace ConnectionConfig.ConnectionString

open PropertyMap (empty)
open Uri (withUserInfo IsAuthority isIgnored portText bareHost)

/-- A list of hosts of which all entries are addresses has these addresses, and at least one. -/
theorem parseList_of_entries (hosts : List Char)
    (h : ∀ entry ∈ ServerAddress.entries hosts, (ServerAddress.parse? entry).isSome = true) :
    ∃ addresses, addresses ≠ [] ∧ ServerAddress.parseList (String.ofList hosts) = .ok addresses ∧
      addresses.map some = (ServerAddress.entries hosts).map ServerAddress.parse? := by
  have hfilter : (ServerAddress.entries hosts).filter (fun entry ↦ !entry.isEmpty) =
      ServerAddress.entries hosts := by
    apply List.filter_eq_self.mpr
    intro entry he
    by_contra hempty
    have hnone : entry = "" := by simpa using hempty
    have hsome := h entry he
    rw [hnone] at hsome
    cases hsome
  obtain ⟨addresses, ha⟩ := ServerAddress.exists_mapM_parse_iff.mpr h
  have hmap := ServerAddress.mapM_parse_eq_ok_iff.mp ha
  refine ⟨addresses, ?_, ?_, hmap.symm⟩
  · rintro rfl
    simp [ServerAddress.entries, List.splitOn_ne_nil] at hmap
  · rw [ServerAddress.parseList, String.toList_ofList, hfilter, ha]

/-- The host of a URI without ignored characters stands in an authority. Blanks and controls may
follow it there, which the URI leaves out. -/
theorem exists_isAuthority_of_read {text : List Char} {uri : Uri} (h : Uri.read text = .ok uri)
    (hi : ∀ c ∈ text, isIgnored c = false) (hne : hostText uri ≠ []) :
    ∃ userInfo hosts more rest afterPort,
      text = '/' :: '/' :: withUserInfo userInfo ((hosts ++ more) ++ rest) ∧
      IsAuthority userInfo (hosts ++ more) rest ∧
      Uri.readHostAndPort hosts = .ok (uri.host, uri.port, afterPort) := by
  obtain ⟨late, htext, hlate⟩ := Uri.exists_eq_clean_append hi
  rw [Uri.read] at h
  split at h
  · next cs hclean =>
    obtain ⟨userInfo, hosts, rest, ha, rfl⟩ := Uri.exists_isAuthority cs
    rw [ha.readAuthority_eq] at h
    obtain ⟨afterPort, hread, -⟩ := Uri.exists_of_ofAuthority h
    obtain ⟨more, rest', ha', he⟩ := ha.append_blanks hlate
    refine ⟨userInfo, hosts, more, rest', afterPort, ?_, ha', hread⟩
    rw [htext, hclean, ← he]
    rfl
  · cases h
    exact absurd rfl hne
  · cases h
    exact absurd rfl hne

/-- The addresses of the hosts that a connection string names in its authority: one for each entry
of a list of hosts, if it is one, or the one of the host with its port. -/
def Stages.addresses (s : Stages) : List (Option ServerAddress) :=
  match s.hostList with
  | some hosts => (hosts.splitOn ',').map fun entry ↦
      ServerAddress.parse? (String.ofList (Text.trimChars entry))
  | none => [some ⟨String.ofList (bareHost s.uri.host), s.uri.port.getD 27017⟩]

/-- The entries of the host text stand for the addresses that the authority names. -/
theorem Stages.Of.parse?_entries {s : Stages} {schema : Schema} {options : Option String}
    {remainder : List Char} (h : s.Of schema options remainder)
    (hi : ∀ c ∈ remainder, isIgnored c = false) (hne : s.host ≠ "") :
    (ServerAddress.entries s.host.toList).map ServerAddress.parse? = s.addresses := by
  have hhosts := h.hosts
  cases hl : s.hostList with
  | some hosts =>
    rw [Stages.addresses, Stages.host_eq, hl, Option.getD_some, String.toList_ofList,
      ServerAddress.entries, List.map_map]
    rfl
  | none =>
    have htext : s.host = String.ofList (hostText s.uri) := by
      rw [Stages.host_eq, hl, Option.getD_none]
    have huri : Uri.read remainder = .ok s.uri := by
      have hwhole := isSeparated_of_separateHosts hhosts
      rw [hl] at hwhole
      rw [← hwhole.eq_of_none]
      exact h.uri
    have hne' : hostText s.uri ≠ [] := fun hnil ↦ hne (by rw [htext, hnil])
    obtain ⟨userInfo, hosts, more, rest, afterPort, rfl, ha, hread⟩ :=
      exists_isAuthority_of_read huri hi hne'
    -- A comma would have made the hosts a list, also with blanks and controls after them.
    have hcomma : ',' ∉ hosts := by
      intro hc
      obtain ⟨-, -, hsome⟩ :=
        (separateHosts_eq_ok_iff_of_mem ha (List.mem_append_left more hc)).mp hhosts
      rw [hl] at hsome
      cases hsome
    rw [Stages.addresses, htext, hl, String.toList_ofList, hostText_eq]
    rw [hostText_eq] at hne'
    exact ServerAddress.parse?_entries_of_readHostAndPort hread hcomma hne'

/-- Every host that the authority names has an address. -/
theorem Stages.Of.isSome_of_mem_addresses {s : Stages} {schema : Schema} {options : Option String}
    {remainder : List Char} (h : s.Of schema options remainder) :
    ∀ address ∈ s.addresses, address.isSome = true := by
  intro address hm
  have hhosts := h.hosts
  have hseparated := isSeparated_of_separateHosts hhosts
  rw [Stages.addresses] at hm
  cases hl : s.hostList with
  | none =>
    rw [hl, List.mem_singleton] at hm
    rw [hm]
    rfl
  | some hosts =>
    rw [hl] at hm hseparated hhosts
    generalize s.uriText = text at hseparated hhosts
    cases hseparated with
    | list ha hc =>
      obtain ⟨hentries, -⟩ := (separateHosts_eq_ok_iff_of_mem ha hc).mp hhosts
      obtain ⟨entry, he, rfl⟩ := List.mem_map.mp hm
      exact hentries _ (List.mem_map.mpr ⟨entry, he, rfl⟩)

/-- What is found under the key of the host is the host, unless an option names it. -/
theorem Stages.eq_host_of_get? {s : Stages} {host : String}
    (h : (empty.offerAll s.entries).get? Property.host.name = some host)
    (hkey : ∀ pair ∈ s.query ++ s.options, pair.1 ≠ Property.host.name) :
    host = s.host ∧ Text.isBlank host = false := by
  obtain ⟨hm, hb⟩ := PropertyMap.mem_of_get?_offerAll h
  refine ⟨?_, hb⟩
  rcases Stages.mem_entries hm with ho | ⟨-, hv⟩ | hn | hn | ⟨hn, -⟩
  · exact absurd rfl (hkey _ ho)
  · exact hv
  · exact absurd (Property.name_inj.mp hn) (by decide)
  · exact absurd (Property.name_inj.mp hn) (by decide)
  · exact absurd (Property.name_inj.mp hn) (by decide)

/-- The host of a connection string that is read on its own, without ignored characters and with no
option that names the host, gives the addresses that the authority names: for a list of hosts one
for each of its entries, in their order, and for one host that host, without brackets, with its port
or the default one. There is at least one, and without a tunnel they are the servers that a client
talks to. -/
theorem parseList_of_read {schema : Schema} {scheme : String} {options : Option String}
    {remainder host : String} {m : PropertyMap}
    (h : read schema scheme options empty (scheme ++ remainder) = .ok m)
    (hi : ∀ c ∈ remainder.toList, isIgnored c = false) (hhost : m.host? = some host)
    (hkey : ∀ s : Stages, s.IsReadingOf schema options remainder.toList →
      ∀ pair ∈ s.query ++ s.options, pair.1 ≠ Property.host.name) :
    ∃ (s : Stages) (addresses : List ServerAddress),
      s.IsReadingOf schema options remainder.toList ∧ addresses ≠ [] ∧
      ServerAddress.parseList host = .ok addresses ∧ addresses.map some = s.addresses ∧
      ∀ machine localPort, ClientProfile.tunnelEnd? machine m localPort = none →
        ClientProfile.hostsOf machine m localPort = .ok addresses := by
  rw [read_append] at h
  split at h
  · cases h
    cases hhost
  · cases ho : offers schema options remainder.toList with
    | error e =>
      rw [ho] at h
      cases h
    | ok entries =>
      rw [ho] at h
      cases h
      obtain ⟨s, hs, rfl⟩ := offers_eq_ok_iff.mp ho
      obtain ⟨rfl, hb⟩ := Stages.eq_host_of_get? hhost (hkey s hs.isReadingOf)
      have hne : s.host ≠ "" := by
        intro hempty
        rw [hempty] at hb
        cases hb
      have hentries := hs.parse?_entries hi hne
      obtain ⟨addresses, haddresses, hparse, hmap⟩ :=
        parseList_of_entries s.host.toList fun entry he ↦
          hs.isSome_of_mem_addresses _ (hentries ▸ List.mem_map.mpr ⟨entry, he, rfl⟩)
      rw [String.ofList_toList] at hparse
      refine ⟨s, addresses, hs.isReadingOf, haddresses, hparse, hmap.trans hentries,
        fun machine localPort htunnel ↦ ?_⟩
      rw [ClientProfile.hostsOf, htunnel, hhost]
      exact hparse

/-- An IPv6 address without a port comes without its brackets and with the default port. -/
theorem parseList_of_read_brackets :
    ∃ m, read Schema.standard scheme (some "w=1") empty
        (scheme ++ "//ann@[0:0::1]/db?tls=true") = .ok m ∧
      m.host? = some "[::1]" ∧ ServerAddress.parseList "[::1]" = .ok [⟨"::1", 27017⟩] := by
  let s : Stages := {
    uriText := "//ann@[0:0::1]/db?tls=true".toList
    hostList := none
    uri := ⟨"ann".toList, none, "[::1]".toList, none, "/db".toList, some "tls=true".toList⟩
    user := "ann"
    password := []
    database := "db"
    query := [("tls", "true")]
    options := [("w", "1")] }
  have hs : s.Of Schema.standard (some "w=1") "//ann@[0:0::1]/db?tls=true".toList :=
    ⟨by decide +kernel, by decide +kernel, by decide +kernel, by decide +kernel,
      by decide +kernel, by decide +kernel, by decide +kernel⟩
  have hread : read Schema.standard scheme (some "w=1") empty
      (scheme ++ "//ann@[0:0::1]/db?tls=true") = .ok (empty.offerAll s.entries) :=
    (read_scheme_append_eq_ok_iff rfl).mpr ⟨s, hs, rfl⟩
  have hhost : (empty.offerAll s.entries).host? = some "[::1]" := by decide +kernel
  obtain ⟨s', addresses, hs', -, hparse, hmap, -⟩ :=
    parseList_of_read hread (Text.forall_mem_of_all (by decide)) hhost fun s' hs' ↦ by
      rw [hs'.unique hs.isReadingOf]
      decide +kernel
  rw [hs'.unique hs.isReadingOf] at hmap
  have haddresses : addresses = [⟨"::1", 27017⟩] :=
    List.map_injective_iff.mpr (fun _ _ ↦ Option.some.inj) (hmap.trans (by decide +kernel))
  exact ⟨_, hread, hhost, haddresses ▸ hparse⟩

end ConnectionConfig.ConnectionString
