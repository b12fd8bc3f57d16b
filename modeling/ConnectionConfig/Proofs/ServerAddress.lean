import ConnectionConfig.Proofs.Outcomes
import ConnectionConfig.Proofs.Text.Trim
import ConnectionConfig.Proofs.Uri.Hosts
import ConnectionConfig.ServerAddress

/-!
# Server addresses of printed hosts

A host in its printed form, with a port or without one, stands for the address with that host and
that port; an IPv6 address loses its brackets. It holds no comma unless the text that it was read
from does, and so it is a list of one address. A text of commas and white space is a list of none.
-/

namespace ConnectionConfig

namespace Decimal

/-- A written port reads back as itself. -/
theorem readUInt16?_ofUInt16 (port : UInt16) :
    readUInt16? (ofUInt16 port).toList = some port := by
  have hn := readNat?_ofNat port.toNat
  have hlt := port.toNat_lt
  rw [ofUInt16, String.toList_ofList, readUInt16?]
  · rw [hn, Option.bind_some, if_pos (by omega), UInt16.ofNat_toNat]
  · intro rest heq
    rw [heq] at hn
    simp [readNat?] at hn

end Decimal

namespace Ipv6

private theorem printGroups_ne_nil {groups : List Nat} (h : groups ≠ []) :
    printGroups groups ≠ [] := by
  obtain ⟨g, rest, rfl⟩ := List.exists_cons_of_ne_nil h
  rw [printGroups, List.map_cons]
  cases rest with
  | nil => simp
  | cons next rest =>
    rw [List.map_cons, List.intercalate_cons_cons]
    simp

/-- The text of an address is not empty. -/
theorem print_ne_nil {groups : List Nat} (h : groups ≠ []) : print groups ≠ [] := by
  rw [print]
  dsimp only
  split
  · exact printGroups_ne_nil h
  · simp

/-- An address has groups. -/
theorem ne_nil_of_read? {cs : List Char} {groups : List Nat} (h : read? cs = some groups) :
    groups ≠ [] := by
  rintro rfl
  rw [read?] at h
  split at h
  · obtain ⟨-, hlength⟩ := Option.filter_eq_some_iff.mp h
    cases hlength
  · obtain ⟨left, -, h⟩ := Option.bind_eq_some_iff.mp h
    obtain ⟨right, -, h⟩ := Option.bind_eq_some_iff.mp h
    dsimp only at h
    split at h
    · next hknown =>
      have hlength := congrArg List.length (Option.some.inj h)
      simp only [List.length_append, List.length_replicate, List.length_nil] at hlength
      omega
    · cases h

end Ipv6

namespace Uri

/-- The host of an address: a name as it is, or an IPv6 address without its brackets. -/
def bareHost : List Char → List Char
  | '[' :: rest => rest.dropLast
  | name => name

/-- A name is bare. -/
theorem bareHost_of_isName {cs : List Char} (h : IsName cs) : bareHost cs = cs := by
  rw [bareHost]
  rintro rest rfl
  exact absurd (h.not_refused '[' List.mem_cons_self) (by decide)

/-- Reading a host brings in no comma. -/
theorem comma_not_mem_of_readHost {cs host : List Char} (h : readHost cs = .ok host)
    (hc : ',' ∉ cs) : ',' ∉ host := by
  intro hm
  rcases of_readHost h with ⟨-, groups, -, -, rfl⟩ | ⟨-, rfl⟩
  · rcases List.mem_append.mp hm with ho | he
    · rcases List.mem_cons.mp ho with hb | ha
      · cases hb
      · exact absurd (Ipv6.isAddressChar_of_mem_print groups _ ha) (by decide)
    · cases List.mem_singleton.mp he
  · rcases Percent.mem_encode hm with he | ⟨hcs, -⟩
    · exact absurd he (by decide)
    · exact hc hcs

/-- The host and what follows it make up the text. -/
theorem splitHost_append (bracketed : Bool) (cs : List Char) :
    (splitHost bracketed cs).1 ++ (splitHost bracketed cs).2 = cs := by
  induction cs generalizing bracketed with
  | nil => rfl
  | cons c cs ih =>
    rw [splitHost]
    split
    · rfl
    · simp [ih]

private theorem comma_not_mem_portText (port : Option UInt16) : ',' ∉ portText port := by
  intro hm
  cases port with
  | none => cases hm
  | some port =>
    rcases List.mem_cons.mp hm with hc | hd
    · cases hc
    · exact absurd (isDigit_of_mem_ofUInt16 _ hd) (by decide)

/-- Reading host and port brings in no comma. -/
theorem comma_not_mem_of_readHostAndPort {cs host rest : List Char} {port : Option UInt16}
    (h : readHostAndPort cs = .ok (host, port, rest)) (hc : ',' ∉ cs) :
    ',' ∉ host ++ portText port := by
  have hsplit : ',' ∉ (splitHost false cs).1 := by
    rw [← splitHost_append false cs] at hc
    exact fun hm ↦ hc (List.mem_append_left _ hm)
  have hhost := comma_not_mem_of_readHost (readHost_of_readHostAndPort h).1 hsplit
  exact fun hm ↦ (List.mem_append.mp hm).elim hhost (comma_not_mem_portText port)

end Uri

namespace ServerAddress

open Uri (portText bareHost)

private theorem ofHost?_of_ne_nil {host : List Char} (h : host ≠ []) (port : UInt16) :
    ofHost? host port = some ⟨String.ofList host, port⟩ := by
  rw [ofHost?, if_neg (by simpa using h)]

private theorem ofHostAndPort?_ofUInt16 {host : List Char} (h : host ≠ []) (port : UInt16) :
    ofHostAndPort? host (Decimal.ofUInt16 port).toList = some ⟨String.ofList host, port⟩ := by
  rw [ofHostAndPort?, Decimal.readUInt16?_ofUInt16, Option.bind_some, ofHost?_of_ne_nil h]

/-- A text that starts with no square bracket goes by its first colon. -/
theorem parse?_of_head?_ne {cs : List Char} (h : cs.head? ≠ some '[') :
    parse? (String.ofList cs) =
      match Text.cutFirst? ':' cs with
      | some (host, port) =>
        if port.contains ':' then ofHost? cs defaultPort else ofHostAndPort? host port
      | none => ofHost? cs defaultPort := by
  rw [parse?, String.toList_ofList]
  split
  · exact absurd rfl h
  · rfl

/-- A text that starts with a square bracket goes by its first closing one. -/
theorem parse?_bracket_cons (rest : List Char) :
    parse? (String.ofList ('[' :: rest)) =
      match Text.cutFirst? ']' rest with
      | some (host, []) => ofHost? host defaultPort
      | some (host, ':' :: port) => ofHostAndPort? host port
      | _ => none := by
  rw [parse?, String.toList_ofList]
  rfl

/-- A text without colons is a host. -/
theorem parse?_host {host : List Char} (hb : host.head? ≠ some '[') (hc : ':' ∉ host) :
    parse? (String.ofList host) = ofHost? host defaultPort := by
  rw [parse?_of_head?_ne hb, Text.cutFirst?_eq_none_iff.mpr hc]

/-- A text with one colon is a host with a port. -/
theorem parse?_host_port {host port : List Char} (hb : (host ++ ':' :: port).head? ≠ some '[')
    (hc : ':' ∉ host) (hp : ':' ∉ port) :
    parse? (String.ofList (host ++ ':' :: port)) = ofHostAndPort? host port := by
  rw [parse?_of_head?_ne hb, Text.cutFirst?_append_cons _ hc]
  exact if_neg (by simpa using hp)

/-- A text in square brackets is a host. -/
theorem parse?_brackets_host {body : List Char} (hc : ']' ∉ body) :
    parse? (String.ofList ('[' :: body ++ [']'])) = ofHost? body defaultPort := by
  rw [List.cons_append, parse?_bracket_cons, Text.cutFirst?_append_cons _ hc]

/-- A text in square brackets with a colon after it is a host with a port. -/
theorem parse?_brackets_port {body : List Char} (port : List Char) (hc : ']' ∉ body) :
    parse? (String.ofList ('[' :: body ++ [']'] ++ ':' :: port)) = ofHostAndPort? body port := by
  rw [List.cons_append, List.cons_append, List.append_assoc, List.singleton_append,
    parse?_bracket_cons, Text.cutFirst?_append_cons _ hc]
  rfl

/-- A name with its port stands for its address. -/
theorem parse?_of_isName {name : List Char} (h : Uri.IsName name) (port : Option UInt16) :
    parse? (String.ofList (name ++ portText port)) =
      some ⟨String.ofList name, port.getD defaultPort⟩ := by
  have hcolon : ':' ∉ name := fun hm ↦ absurd (h.not_refused _ hm) (by decide)
  have hbracket : name.head? ≠ some '[' := fun hm ↦
    absurd (h.not_refused _ (List.mem_of_head? hm)) (by decide)
  cases port with
  | none =>
    rw [portText, List.append_nil, parse?_host hbracket hcolon]
    exact ofHost?_of_ne_nil h.ne_nil _
  | some port =>
    have hdigits : ':' ∉ (Decimal.ofUInt16 port).toList := fun hm ↦
      absurd (Uri.isDigit_of_mem_ofUInt16 _ hm) (by decide)
    rw [portText, parse?_host_port _ hcolon hdigits]
    · exact ofHostAndPort?_ofUInt16 h.ne_nil port
    · rwa [List.head?_append_of_ne_nil _ h.ne_nil]

/-- A text in square brackets with its port stands for its address. -/
theorem parse?_brackets {body : List Char} (hne : body ≠ []) (hclose : ']' ∉ body)
    (port : Option UInt16) :
    parse? (String.ofList ('[' :: body ++ [']'] ++ portText port)) =
      some ⟨String.ofList body, port.getD defaultPort⟩ := by
  cases port with
  | none =>
    rw [portText, List.append_nil, parse?_brackets_host hclose]
    exact ofHost?_of_ne_nil hne _
  | some port =>
    rw [portText, parse?_brackets_port _ hclose]
    exact ofHostAndPort?_ofUInt16 hne port

/-- A host that was read, with its port, stands for its address. -/
theorem parse?_of_readHost {cs host : List Char} (h : Uri.readHost cs = .ok host)
    (hne : host ≠ []) (port : Option UInt16) :
    parse? (String.ofList (host ++ portText port)) =
      some ⟨String.ofList (bareHost host), port.getD defaultPort⟩ := by
  rcases Uri.of_readHost h with ⟨body, groups, -, hread, rfl⟩ | ⟨hcs, rfl⟩
  · have hclose : ']' ∉ Ipv6.print groups := fun hm ↦
      absurd (Ipv6.isAddressChar_of_mem_print groups _ hm) (by decide)
    rw [parse?_brackets (Ipv6.print_ne_nil (Ipv6.ne_nil_of_read? hread)) hclose]
    simp [bareHost]
  · have hname : Uri.IsName (Percent.encode Percent.isControl cs) :=
      Uri.isName_encode (fun hnil ↦ hne (by rw [hnil]; rfl)) hcs
    rw [parse?_of_isName hname, Uri.bareHost_of_isName hname]

/-! ## Entries and addresses -/

/-- Parsing an entry succeeds just when it stands for an address. -/
theorem parse_eq_ok_iff {entry : String} {address : ServerAddress} :
    parse entry = .ok address ↔ parse? entry = some address := by
  rw [parse]
  cases parse? entry with
  | none => simp
  | some found => simp

/-- Entries are parsed together just when each stands for an address. -/
theorem mapM_parse_eq_ok_iff {entries : List String} {addresses : List ServerAddress} :
    entries.mapM parse = .ok addresses ↔
      entries.map parse? = addresses.map some := by
  simp only [mapM_eq_ok_iff, parse_eq_ok_iff, ← List.forall₂_eq_eq_eq,
    List.forall₂_map_left_iff, List.forall₂_map_right_iff]

/-- Entries have addresses together just when each has one. -/
theorem exists_mapM_parse_iff {entries : List String} :
    (∃ addresses, entries.mapM parse = .ok addresses) ↔
      ∀ entry ∈ entries, (parse? entry).isSome = true := by
  simp only [mapM_parse_eq_ok_iff]
  constructor
  · rintro ⟨addresses, h⟩ entry he
    have hm : parse? entry ∈ addresses.map some := h ▸ List.mem_map_of_mem he
    obtain ⟨address, -, ha⟩ := List.mem_map.mp hm
    rw [← ha]
    rfl
  · intro h
    refine ⟨entries.filterMap parse?, ?_⟩
    rw [List.map_filterMap, ← List.filterMap_eq_map]
    apply List.filterMap_congr
    intro entry he
    obtain ⟨address, ha⟩ := Option.isSome_iff_exists.mp (h entry he)
    rw [ha]
    simp [ha]

/-- Parsing an entry fails just when it is no address, and the error shows it. -/
theorem parse_eq_error_iff {entry : String} {e : ConnectionError} :
    parse entry = .error e ↔ parse? entry = none ∧ e = .invalidAddress entry := by
  rw [parse]
  cases parse? entry with
  | none => simp [eq_comm]
  | some found => simp

/-- The entries of a host text that are not blank. -/
def namedEntries (hosts : String) : List String :=
  (entries hosts.toList).filter fun entry ↦ !entry.isEmpty

/-- The first of some entries that is no address. -/
def IsFirstInvalid (entries : List String) (entry : String) : Prop :=
  ∃ before after, entries = before ++ entry :: after ∧ parse? entry = none ∧
    ∀ earlier ∈ before, (parse? earlier).isSome = true

/-- A host text has the addresses of its entries that are not blank. -/
theorem parseList_eq_ok_iff {hosts : String} {addresses : List ServerAddress} :
    parseList hosts = .ok addresses ↔ (namedEntries hosts).map parse? = addresses.map some :=
  mapM_parse_eq_ok_iff

/-- Entries fail together with the first that is no address. -/
theorem mapM_parse_eq_error_iff {entries : List String} {e : ConnectionError} :
    entries.mapM parse = .error e ↔
      ∃ entry, IsFirstInvalid entries entry ∧ e = .invalidAddress entry := by
  rw [mapM_eq_error_iff]
  simp only [parse_eq_error_iff, parse_eq_ok_iff, ← Option.isSome_iff_exists]
  constructor
  · rintro ⟨before, entry, after, hsplit, ⟨hnone, he⟩, hbefore⟩
    exact ⟨entry, ⟨before, after, hsplit, hnone, hbefore⟩, he⟩
  · rintro ⟨entry, ⟨before, after, hsplit, hnone, hbefore⟩, he⟩
    exact ⟨before, entry, after, hsplit, ⟨hnone, he⟩, hbefore⟩

/-- A host text fails with the first entry that is neither blank nor an address. -/
theorem parseList_eq_error_iff {hosts : String} {e : ConnectionError} :
    parseList hosts = .error e ↔
      ∃ entry, IsFirstInvalid (namedEntries hosts) entry ∧ e = .invalidAddress entry :=
  mapM_parse_eq_error_iff

/-- A host text is a list of no address just when it holds nothing but white space and commas. -/
theorem parseList_eq_nil_iff {hosts : String} :
    parseList hosts = .ok [] ↔ ∀ c ∈ hosts.toList, Text.isSpace c = true ∨ c = ',' := by
  have hempty : ∀ part, (String.ofList (Text.trimChars part)).isEmpty = true ↔
      ∀ c ∈ part, Text.isSpace c = true := by
    intro part
    rw [String.isEmpty_iff, ← String.toList_inj, String.toList_ofList, String.toList_empty,
      Text.trimChars_eq_nil_iff, List.all_eq_true]
  rw [parseList, mapM_eq_ok_iff, List.forall₂_nil_right_iff, List.filter_eq_nil_iff, entries,
    ← Text.forall_mem_splitOn_iff]
  simp only [List.forall_mem_map, Bool.not_eq_true', Bool.not_eq_false, hempty]

/-- Texts without commas and white space are the entries of a list of them. -/
theorem entries_intercalate {hosts : List (List Char)} (hne : hosts ≠ [])
    (h : ∀ host ∈ hosts, ∀ c ∈ host, c ≠ ',' ∧ Text.isSpace c = false) :
    entries ([','].intercalate hosts) = hosts.map String.ofList := by
  rw [entries, List.splitOn_intercalate ',' (fun host hh hm ↦ (h host hh ',' hm).1 rfl) hne]
  apply List.map_congr_left
  intro host hh
  rw [Text.trimChars_eq_self (.of_forall fun c hc ↦ (h host hh c hc).2)]

/-- A text without commas and white space is a list with itself as the entry. -/
theorem entries_eq_singleton {cs : List Char} (hc : ',' ∉ cs)
    (hs : ∀ c ∈ cs, Text.isSpace c = false) :
    entries cs = [String.ofList cs] := by
  have h := entries_intercalate (List.cons_ne_nil cs []) (by
    intro host hh c hm
    rw [List.mem_singleton.mp hh] at hm
    exact ⟨fun he ↦ hc (he ▸ hm), hs c hm⟩)
  rwa [List.intercalate_singleton] at h

/-- One host that was read, with its port, is a list of one address. -/
theorem parse?_entries_of_readHostAndPort {cs host rest : List Char} {port : Option UInt16}
    (h : Uri.readHostAndPort cs = .ok (host, port, rest)) (hc : ',' ∉ cs)
    (hne : host ++ portText port ≠ []) :
    (entries (host ++ portText port)).map parse? =
      [some ⟨String.ofList (bareHost host), port.getD defaultPort⟩] := by
  have hhost : host ≠ [] := by
    rintro rfl
    obtain ⟨-, rfl, -⟩ := Uri.eq_nil_of_readHostAndPort h
    exact hne rfl
  have hread := (Uri.readHost_of_readHostAndPort h).1
  rcases Uri.isPrinted_of_readHost hread with ⟨-, hnil⟩ | hp
  · exact absurd hnil hhost
  · have hspace : ∀ c ∈ host ++ portText port, Text.isSpace c = false := fun c hm ↦
      Uri.isSpace_of_isHostChar (Uri.isHostChar_of_mem hp port c hm)
    rw [entries_eq_singleton (Uri.comma_not_mem_of_readHostAndPort h hc) hspace,
      List.map_singleton, parse?_of_readHost hread hhost]

end ServerAddress

end ConnectionConfig
