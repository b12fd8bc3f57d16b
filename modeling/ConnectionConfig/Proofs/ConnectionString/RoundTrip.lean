import ConnectionConfig.Proofs.ConnectionString.ReadBack
import ConnectionConfig.Proofs.ConnectionString.Weights

/-!
# When the form for logs reads back

The form for logs of a map that was read can be read back just when it fits. A host that is not read
as itself would have to come back as an option of the query, where the host that runs into the rest
of the form is a part of that query; but a query is too short to hold a text it is a part of.
-/

namespace ConnectionConfig.ConnectionString

open Uri (withUserInfo IsAuthority IsHostWithPort portText endsAuthority endsPath isIgnored)
open Percent (encode inComponent)

variable {m : PropertyMap} {s : Stages}

/-- The stages of reading the form for logs of a map. -/
def Stages.OfPublic (s : Stages) (m : PropertyMap) : Prop :=
  s.Of Schema.standard none ('/' :: '/' :: withUserInfo (userInfo? m) (hostPart m ++ publicRest m))

/-! ## What the stages offer -/

/-- The map that the stages lead to. -/
private def found (s : Stages) : PropertyMap := PropertyMap.empty.offerAll s.entries

/-- The stages of reading the form for logs lead back to the map, which holds no blank values. -/
private structure IsRoundTrip (m : PropertyMap) (s : Stages) : Prop where
  stages : s.OfPublic m
  back : ReadsBack m (found s)
  no_blank : ∀ key, m.getNonBlank? key = m.get? key

private theorem IsRoundTrip.get?_host (h : IsRoundTrip m s) {host : List Char}
    (hp : part m .host = some host) :
    (found s).get? Property.host.name = some (String.ofList host) := by
  rw [← part_eq_some_iff.mp hp, h.no_blank]
  exact h.back.host

private theorem IsRoundTrip.get?_database (h : IsRoundTrip m s) {database : List Char}
    (hp : part m .database = some database) :
    (found s).get? Property.database.name = some (String.ofList database) := by
  rw [← part_eq_some_iff.mp hp, h.no_blank]
  exact h.back.database

private theorem mem_query_or_part (hs : s.OfPublic m) {key value : String}
    (h : (found s).get? key = some value) :
    (key, value) ∈ s.query ∨ key = Property.host.name ∧ value = s.host ∨
      key = Property.user.name ∨ key = Property.password.name ∨
      key = Property.database.name ∧ value = s.database := by
  have ho : s.options = [] := (Except.ok.inj hs.options).symm
  have hm := Stages.mem_entries (PropertyMap.mem_of_get?_offerAll h).1
  rwa [ho, List.append_nil] at hm

private theorem mem_query_or_host (hs : s.OfPublic m) {value : String}
    (h : (found s).get? Property.host.name = some value) :
    (Property.host.name, value) ∈ s.query ∨ value = s.host := by
  rcases mem_query_or_part hs h with hq | ⟨-, hv⟩ | hn | hn | ⟨hn, -⟩
  · exact .inl hq
  · exact .inr hv
  · exact absurd (Property.name_inj.mp hn) (by decide)
  · exact absurd (Property.name_inj.mp hn) (by decide)
  · exact absurd (Property.name_inj.mp hn) (by decide)

private theorem mem_query_or_database (hs : s.OfPublic m) {value : String}
    (h : (found s).get? Property.database.name = some value) :
    (Property.database.name, value) ∈ s.query ∨ value = s.database := by
  rcases mem_query_or_part hs h with hq | ⟨hn, -⟩ | hn | hn | ⟨-, hv⟩
  · exact .inl hq
  · exact absurd (Property.name_inj.mp hn) (by decide)
  · exact absurd (Property.name_inj.mp hn) (by decide)
  · exact absurd (Property.name_inj.mp hn) (by decide)
  · exact .inr hv

private theorem host?_found (h : Text.isBlank s.host = false) : (found s).host? = some s.host := by
  show (found s).get? Property.host.name = _
  rw [found, PropertyMap.get?_offerAll, Stages.entries, List.cons_append, List.cons_append,
    List.filter_cons_of_pos (by simp [h]), List.lookup_cons_self]
  rfl

private theorem ofAuthority_of_user {user : List Char} (hu : userInfo? m = some user) :
    Uri.ofAuthority (userInfo? m) [] (publicRest m) = .error .emptyHost := by
  have huser := readUserInfo_public m
  have hempty : Uri.readHostAndPort [] = .ok ([], none, []) := rfl
  rw [hu, Option.getD_some] at huser
  rw [hu]
  cases user with
  | nil => rfl
  | cons c user =>
    rw [Uri.ofAuthority, if_neg (by simp), hempty]
    simp [huser]

private theorem isSome_host_of_user (hs : s.OfPublic m) (hu : (part m .user).isSome = true) :
    (part m .host).isSome = true := by
  by_contra hno
  have hhost : hostPart m = [] := by
    rw [hostPart, Option.not_isSome_iff_eq_none.mp hno, Option.getD_none]
  obtain ⟨user, hu⟩ := Option.isSome_iff_exists.mp hu
  have hinfo : userInfo? m = some (encode inComponent user) := by
    rw [userInfo?, hu, Option.map_some]
  have hauth : IsAuthority (userInfo? m) [] (publicRest m) := isAuthority_public m (by simp)
  have hhosts := hs.hosts
  have hread := hs.uri
  rw [hhost, separateHosts_of_not_mem hauth (by simp), Except.ok.injEq, Prod.mk.injEq] at hhosts
  rw [← hhosts.1, Uri.read, clean_public m (by simp)] at hread
  change Uri.readAuthority _ = _ at hread
  rw [hauth.readAuthority_eq, ofAuthority_of_user hinfo] at hread
  cases hread

private theorem exists_isAuthority_form {userInfo : Option (List Char)} {hosts after : List Char}
    (ha : IsAuthority userInfo hosts after)
    (he : hostPart m = withUserInfo userInfo (hosts ++ after)) :
    ∃ u, IsAuthority u hosts (after ++ publicRest m) ∧
      withUserInfo (userInfo? m) (hostPart m ++ publicRest m) =
        withUserInfo u (hosts ++ (after ++ publicRest m)) := by
  have hform : IsAuthority (userInfo? m) [] (publicRest m) := isAuthority_public m (by simp)
  have hrest := ha.append_rest hform.rest
  rw [he, ← Uri.withUserInfo_append, List.append_assoc]
  cases hu : userInfo? m with
  | none => exact ⟨userInfo, hrest, rfl⟩
  | some u =>
    have hends := hform.userInfo u hu
    exact ⟨_, hrest.prepend hends, Uri.append_cons_withUserInfo u userInfo _⟩

private theorem isHostList_of_comma {userInfo : Option (List Char)} {list after : List Char}
    (hs : s.OfPublic m) (ha : IsAuthority userInfo list after)
    (he : hostPart m = withUserInfo userInfo (list ++ after)) (hc : ',' ∈ list)
    (hback : (found s).host? = some (String.ofList (hostPart m))) : IsHostList (hostPart m) := by
  obtain ⟨u, hu, hform⟩ := exists_isAuthority_form ha he
  have hhosts := hs.hosts
  rw [hform, separateHosts_eq_ok_iff_of_mem hu hc] at hhosts
  obtain ⟨hentries, -, hlist⟩ := hhosts
  have hhost : s.host = String.ofList list := by rw [Stages.host_eq, hlist, Option.getD_some]
  have hb : Text.isBlank s.host = false := by
    rw [hhost, Text.isBlank, String.toList_ofList, List.all_eq_false]
    exact ⟨',', hc, by decide⟩
  rw [host?_found hb, hhost, Option.some.injEq, String.ofList_inj] at hback
  rw [← hback]
  exact ⟨hc, ha.hosts, hentries⟩

private theorem read_form {u : Option (List Char)} {hosts after : List Char}
    (hu : IsAuthority u hosts (after ++ publicRest m)) :
    Uri.read ('/' :: '/' :: withUserInfo u (hosts ++ (after ++ publicRest m))) =
      Uri.ofAuthority (u.map fun u ↦ u.filter fun c ↦ !isIgnored c)
        (hosts.filter fun c ↦ !isIgnored c)
        ((after.filter fun c ↦ !isIgnored c) ++ publicRest m) := by
  have hrest := lt_of_mem_publicRest m
  have hfilter := hu.filter
  rw [List.filter_append, Uri.filter_eq_self_of_lt hrest] at hfilter
  have hclean : Uri.clean ('/' :: '/' :: withUserInfo u (hosts ++ (after ++ publicRest m))) =
      '/' :: '/' :: withUserInfo (u.map fun u ↦ u.filter fun c ↦ !isIgnored c)
        ((hosts.filter fun c ↦ !isIgnored c) ++
          ((after.filter fun c ↦ !isIgnored c) ++ publicRest m)) := by
    rw [publicRest, List.cons_append] at hrest ⊢
    rw [← List.append_assoc, Uri.clean_withUserInfo u (hosts ++ after) _ (by decide),
      Uri.clean_eq_self fun c hc ↦ hrest c (List.mem_cons_of_mem _ hc), List.filter_append,
      List.append_assoc]
  rw [Uri.read, hclean]
  exact hfilter.readAuthority_eq

private theorem ofAuthority_of_not_comma {userInfo : Option (List Char)} {hosts after : List Char}
    (hs : s.OfPublic m) (ha : IsAuthority userInfo hosts after)
    (he : hostPart m = withUserInfo userInfo (hosts ++ after)) (hc : ',' ∉ hosts) :
    s.host = String.ofList (s.uri.host ++ portText s.uri.port) ∧
      ∃ u, Uri.ofAuthority u (hosts.filter fun c ↦ !isIgnored c)
        ((after.filter fun c ↦ !isIgnored c) ++ publicRest m) = .ok s.uri := by
  obtain ⟨u, hu, hform⟩ := exists_isAuthority_form ha he
  have hhosts := hs.hosts
  rw [hform, separateHosts_of_not_mem hu hc, Except.ok.injEq, Prod.mk.injEq] at hhosts
  have huri := hs.uri
  rw [← hhosts.1, read_form hu] at huri
  refine ⟨?_, _, huri⟩
  rw [Stages.host_eq, ← hhosts.2, Option.getD_none, hostText_eq]

/-! ## A host from the query -/

private theorem publicOptions_congr {a b : PropertyMap} (hu : part a .user = part b .user)
    (hh : part a .host = part b .host) (hd : part a .database = part b .database)
    (h : printPublic Schema.standard a = printPublic Schema.standard b) :
    publicOptions a = publicOptions b := by
  have hq : publicQuery a = publicQuery b := by
    have hform := congrArg String.toList h
    rw [toList_printPublic, toList_printPublic, Uri.withUserInfo_append, Uri.withUserInfo_append,
      userInfo?, userInfo?, hu, hostPart, hostPart, hh, List.cons.injEq, List.cons.injEq] at hform
    have hrest := List.append_cancel_left hform.2.2
    rw [publicRest, publicRest, databasePart, databasePart, hd] at hrest
    exact List.append_cancel_left hrest
  have hquery : publicQuery? a = publicQuery? b := by
    rw [← readQuery_publicQuery, ← readQuery_publicQuery, hq]
  have ha := readQuery_public a
  rw [hquery, readQuery_public b] at ha
  exact (Except.ok.inj ha).symm

private theorem mem_query_of_printed (hs : s.OfPublic m) {e : SchemaEntry}
    (he : e ∈ Schema.standard.entries.filter SchemaEntry.printed) {raw : String}
    (h : (found s).get? e.name = some raw) : (e.name, raw) ∈ s.query := by
  have hne : ∀ p : Property, p.entry.printed = false → e.name ≠ p.name := fun p hp ↦
    ne_name_of_printed he hp
  rcases mem_query_or_part hs h with hq | ⟨hh, -⟩ | hu | hp | ⟨hd, -⟩
  · exact hq
  · exact absurd hh (hne .host (by decide))
  · exact absurd hu (hne .user (by decide))
  · exact absurd hp (hne .password (by decide))
  · exact absurd hd (hne .database (by decide))

/-- The entries of the options that may be printed. -/
private def printedEntries : List SchemaEntry := Schema.standard.entries.filter SchemaEntry.printed

private theorem nodup_names_printed :
    ((Property.host.entry :: Property.database.entry :: printedEntries).map
      SchemaEntry.name).Nodup := by
  decide +kernel

private theorem IsRoundTrip.databasePart_or_mem_query {path : List Char} (h : IsRoundTrip m s)
    (hpath : s.uri.path = Uri.readPathAfterAuthority path) :
    (databasePart m).length ≤ path.length ∨
      (found s).get? Property.database.name = some (String.ofList (databasePart m)) ∧
        (Property.database.name, String.ofList (databasePart m)) ∈ s.query := by
  cases hd : part m .database with
  | none =>
    left
    rw [databasePart, hd]
    exact Nat.zero_le _
  | some database =>
    have hpart : databasePart m = database := by rw [databasePart, hd, Option.getD_some]
    have hget := h.get?_database hd
    rw [hpart]
    rcases mem_query_or_database h.stages hget with hq | hv
    · exact .inr ⟨hget, hq⟩
    · left
      have hread := h.stages.database
      rw [hpath, ← hv] at hread
      have hlength := length_readPart_firstSegment_le hread
      rwa [String.toList_ofList] at hlength

private theorem weight_query_le {before : List Char} (hs : s.OfPublic m)
    (hquery : s.uri.query = some (encode Percent.inQuery
      ((before ++ publicRest m).takeWhile (· != '#')))) :
    weight s.query ≤ before.length + (databasePart m).length + weight (publicOptions m) + 2 := by
  have hread := hs.query
  rw [hquery, Option.getD_some] at hread
  have hweight := weight_readQuery_le hread
  have hlength := formLength_query_le m before
  omega

private theorem IsRoundTrip.weight_publicOptions_le (h : IsRoundTrip m s) :
    weight (publicOptions m) ≤ weight (rawOptions (found s) printedEntries) := by
  rw [← publicOptions_congr (part_congr h.back.user) (part_congr h.back.host)
    (part_congr h.back.database) h.back.printPublic]
  exact weight_deviations_le (found s) printedEntries

private theorem IsRoundTrip.length_host_le {hosts path before : List Char} (h : IsRoundTrip m s)
    (hget : (found s).get? Property.host.name = some (String.ofList hosts))
    (hhost : (Property.host.name, String.ofList hosts) ∈ s.query)
    (hpath : s.uri.path = Uri.readPathAfterAuthority path)
    (hquery : s.uri.query = some (encode Percent.inQuery
      ((before ++ publicRest m).takeWhile (· != '#')))) :
    hosts.length ≤ path.length + before.length := by
  have hupper := weight_query_le h.stages hquery
  have hoptions := h.weight_publicOptions_le
  have hentry : ∀ e ∈ printedEntries, ∀ raw, (found s).get? e.name = some raw →
      (e.name, raw) ∈ s.query := fun e he raw hr ↦ mem_query_of_printed h.stages he hr
  have hfound : ∀ raw, (found s).get? Property.host.name = some raw →
      (Property.host.name, raw) ∈ s.query := by
    intro raw hr
    rw [hget, Option.some.injEq] at hr
    exact hr ▸ hhost
  -- Host and options come from the query, and so does the database if it is not the path. The
  -- options of the form stand in that query as well, and leave no room for more.
  rcases h.databasePart_or_mem_query hpath with hd | ⟨hg, hq⟩
  · have hlower : weight (rawOptions (found s) (Property.host.entry :: printedEntries)) ≤
        weight s.query := by
      apply weight_rawOptions_le
      · exact nodup_names_printed.sublist (((List.sublist_cons_self _ _).cons_cons _).map _)
      · exact List.forall_mem_cons.mpr ⟨hfound, hentry⟩
    rw [weight_rawOptions_cons (e := Property.host.entry) hget, String.toList_ofList] at hlower
    omega
  · have hlower : weight (rawOptions (found s)
        (Property.host.entry :: Property.database.entry :: printedEntries)) ≤ weight s.query := by
      apply weight_rawOptions_le nodup_names_printed
      refine List.forall_mem_cons.mpr ⟨hfound, List.forall_mem_cons.mpr ⟨?_, hentry⟩⟩
      intro raw hr
      change (found s).get? Property.database.name = _ at hr
      rw [hg, Option.some.injEq] at hr
      exact hr ▸ hq
    rw [weight_rawOptions_cons (e := Property.host.entry) hget,
      weight_rawOptions_cons (e := Property.database.entry) hg, String.toList_ofList,
      String.toList_ofList] at hlower
    omega

private theorem not_mem_publicOptions {p : Property} (hp : p.entry.printed = false) (raw : String) :
    (p.name, raw) ∉ publicOptions m := by
  intro hm
  obtain ⟨e, he, hv⟩ := List.mem_filterMap.mp hm
  obtain ⟨value, -, hpair⟩ := Option.map_eq_some_iff.mp hv
  exact ne_name_of_printed he hp (Prod.mk.inj hpair).1

private theorem IsRoundTrip.host_not_mem_query {after : List Char} (h : IsRoundTrip m s)
    (hget : (found s).get? Property.host.name = some (String.ofList (hostPart m)))
    (hpath : s.uri.path =
      Uri.readPathAfterAuthority ((after ++ publicRest m).takeWhile fun c ↦ !endsPath c))
    (hquery : s.uri.query = Uri.readQuery ((after ++ publicRest m).dropWhile fun c ↦ !endsPath c))
    (hle : after.length ≤ (hostPart m).length) :
    (Property.host.name, String.ofList (hostPart m)) ∉ s.query := by
  intro hhost
  have hread := h.stages.query
  rcases Text.forall_or_exists_cut (fun c ↦ !endsPath c) after with
    hall | ⟨path, mark, before, rfl, hends, hmark⟩
  · -- The query is that of the form, which has no host.
    rw [hquery, List.dropWhile_append_of_pos hall, dropWhile_publicRest, readQuery_publicQuery,
      readQuery_public, Except.ok.injEq] at hread
    rw [← hread] at hhost
    exact not_mem_publicOptions (by decide) _ hhost
  · have hhead : ∀ c ∈ (mark :: (before ++ publicRest m)).head?, (!endsPath c) = false := by
      intro c hc
      cases hc
      exact hmark
    rw [List.append_assoc, List.cons_append, Text.dropWhile_append_of_head hends hhead] at hquery
    rw [List.append_assoc, List.cons_append, Text.takeWhile_append_of_head hends hhead] at hpath
    simp only [endsPath, Bool.not_eq_false', Bool.or_eq_true, decide_eq_true_eq] at hmark
    rcases hmark with rfl | rfl
    · have hshort := h.length_host_le hget hhost hpath hquery
      rw [List.length_append, List.length_cons] at hle
      omega
    · -- Behind a number sign there is no query at all.
      rw [hquery] at hread
      rw [← Except.ok.inj hread] at hhost
      cases hhost

/-! ## What is read back fits -/

private theorem length_le_withUserInfo (userInfo : Option (List Char)) (hosts after : List Char) :
    after.length ≤ (withUserInfo userInfo (hosts ++ after)).length := by
  cases userInfo with
  | none => simp [withUserInfo]
  | some u =>
    simp only [withUserInfo, List.length_append, List.length_cons]
    omega

private theorem IsRoundTrip.isPrinted_of_not_comma {userInfo : Option (List Char)}
    {hosts after : List Char} (h : IsRoundTrip m s) (ha : IsAuthority userInfo hosts after)
    (he : hostPart m = withUserInfo userInfo (hosts ++ after)) (hc : ',' ∉ hosts)
    (hget : (found s).get? Property.host.name = some (String.ofList (hostPart m))) :
    Uri.IsPrinted s.uri.host := by
  obtain ⟨hhost, u, hof⟩ := ofAuthority_of_not_comma h.stages ha he hc
  obtain ⟨afterPort, hread, hpath, hquery⟩ := Uri.exists_of_ofAuthority hof
  rcases Uri.isPrinted_of_readHost (Uri.readHost_of_readHostAndPort hread).1 with ⟨-, hnil⟩ | hp
  · rw [hnil] at hread
    obtain ⟨-, hport, rfl⟩ := Uri.eq_nil_of_readHostAndPort hread
    rw [hnil, hport] at hhost
    rcases mem_query_or_host h.stages hget with hq | hb
    · have hfilter := List.length_filter_le (fun c ↦ !isIgnored c) after
      have hlength := length_le_withUserInfo userInfo hosts after
      rw [← he] at hlength
      exact absurd hq (h.host_not_mem_query hget hpath hquery (by omega))
    · have hblank := (PropertyMap.mem_of_get?_offerAll hget).2
      rw [hb, hhost] at hblank
      cases hblank
  · exact hp

private theorem IsRoundTrip.isHostWithPort_of_not_comma {userInfo : Option (List Char)}
    {hosts after : List Char} (h : IsRoundTrip m s) (ha : IsAuthority userInfo hosts after)
    (he : hostPart m = withUserInfo userInfo (hosts ++ after)) (hc : ',' ∉ hosts)
    (hget : (found s).get? Property.host.name = some (String.ofList (hostPart m))) :
    ',' ∉ hostPart m ∧ IsHostWithPort (hostPart m) := by
  have hp := h.isPrinted_of_not_comma ha he hc hget
  obtain ⟨hhost, u, hof⟩ := ofAuthority_of_not_comma h.stages ha he hc
  obtain ⟨afterPort, hread, -, -⟩ := Uri.exists_of_ofAuthority hof
  have hchars := Uri.isHostChar_of_mem hp s.uri.port
  have hblank : Text.isBlank s.host = false := by
    obtain ⟨c, rest, hc⟩ := List.exists_cons_of_ne_nil hp.ne_nil
    rw [hhost, Text.isBlank, String.toList_ofList, List.all_eq_false]
    refine ⟨c, by rw [hc]; simp, ?_⟩
    rw [Uri.isSpace_of_isHostChar (hchars c (by rw [hc]; simp))]
    simp
  have hself : hostPart m = s.uri.host ++ portText s.uri.port := by
    have hfound := host?_found hblank
    change (found s).get? Property.host.name = _ at hfound
    rwa [hget, hhost, Option.some.injEq, String.ofList_inj] at hfound
  obtain ⟨hhosts, hh⟩ := Uri.isHost_of_readHostAndPort ha hp (he.symm.trans hself) hread
  refine ⟨?_, s.uri.host, s.uri.port, hh, hself⟩
  rwa [hself, ← hhosts]

private theorem IsRoundTrip.fitsAuthority (h : IsRoundTrip m s) :
    ∀ host ∈ part m .host, FitsAuthority host := by
  intro host hh
  have hpart : hostPart m = host := by rw [hostPart, hh, Option.getD_some]
  have hget := h.get?_host hh
  obtain ⟨userInfo, hosts, after, ha, he⟩ := Uri.exists_isAuthority host
  rw [← hpart] at he hget ⊢
  by_cases hc : ',' ∈ hosts
  · exact .inl (isHostList_of_comma h.stages ha he hc hget)
  · exact .inr (h.isHostWithPort_of_not_comma ha he hc hget)

private theorem readPathAfterAuthority_dot :
    Uri.readPathAfterAuthority ('/' :: encode inComponent ['.']) = ['/'] := by
  decide +kernel

private theorem readPathAfterAuthority_dots :
    Uri.readPathAfterAuthority ('/' :: encode inComponent ['.', '.']) = ['/'] := by
  decide +kernel

private theorem IsRoundTrip.publicPath_ne (h : IsRoundTrip m s) {database : List Char}
    (hd : part m .database = some database) : publicPath m ≠ ['/'] := by
  intro hpath
  obtain ⟨text, hostList, uri, hu⟩ :=
    exists_isPublicUri (isSome_host_of_user h.stages) h.fitsAuthority
  have hhosts := h.stages.hosts
  have huri := h.stages.uri
  rw [hu.separated, Except.ok.injEq, Prod.mk.injEq] at hhosts
  rw [← hhosts.1, hu.read, Except.ok.injEq] at huri
  have hquery : s.query = publicOptions m := by
    have hread := h.stages.query
    rw [← huri, hu.query, readQuery_public] at hread
    exact (Except.ok.inj hread).symm
  have hnone : s.database = String.ofList [] := by
    have hread := h.stages.database
    rw [← huri, hu.path, hpath] at hread
    have hempty := readPart_encode Percent.keepsApart_inComponent.percent .database []
    exact Except.ok.inj (hread.symm.trans hempty)
  have hget := h.get?_database hd
  rcases mem_query_or_database h.stages hget with hq | hb
  · rw [hquery] at hq
    exact not_mem_publicOptions (by decide) _ hq
  · have hblank := (PropertyMap.mem_of_get?_offerAll hget).2
    rw [hb, hnone] at hblank
    cases hblank

private theorem IsRoundTrip.fitsPublicForm (h : IsRoundTrip m s) : FitsPublicForm m where
  user := isSome_host_of_user h.stages
  host := h.fitsAuthority
  not_dot := by
    intro hd
    refine h.publicPath_ne hd ?_
    rw [publicPath, databasePart, hd]
    exact readPathAfterAuthority_dot
  not_dots := by
    intro hd
    refine h.publicPath_ne hd ?_
    rw [publicPath, databasePart, hd]
    exact readPathAfterAuthority_dots

/-- The form for logs of a map that was read can be read back, and what is read back agrees with the
map, just when the map fits: if there is a user there is a host, the host is a list of addresses or
reads as itself, and the database is not one dot or two. -/
theorem readsBack_iff_fitsPublicForm {scheme text : String} {m : PropertyMap}
    (h : read Schema.standard scheme none PropertyMap.empty text = .ok m) :
    (∃ back, read Schema.standard scheme none PropertyMap.empty
        (scheme ++ printPublic Schema.standard m) = .ok back ∧ ReadsBack m back) ↔
      FitsPublicForm m := by
  have hm := getNonBlank?_of_read h
  constructor
  · rintro ⟨back, hread, hback⟩
    obtain ⟨s, hs, rfl⟩ := (read_scheme_append_eq_ok_iff (toList_printPublic m)).mp hread
    exact IsRoundTrip.fitsPublicForm ⟨hs, hback, hm⟩
  · intro hfits
    exact ⟨publicMap m, read_scheme_printPublic hfits scheme _, readsBack_publicMap hm⟩

/-- A user without a host is read from a query, and its form for logs is not read at all. -/
theorem not_readsBack_of_user_alone :
    let m := PropertyMap.ofList [("user", "x")]
    read Schema.standard scheme none PropertyMap.empty (scheme ++ "//?user=x") = .ok m ∧
      ¬ ∃ back, read Schema.standard scheme none PropertyMap.empty
        (scheme ++ printPublic Schema.standard m) = .ok back ∧ ReadsBack m back := by
  intro m
  have hread : read Schema.standard scheme none PropertyMap.empty (scheme ++ "//?user=x") =
      .ok m := by
    decide +kernel
  refine ⟨hread, fun hback ↦ ?_⟩
  exact absurd ((readsBack_iff_fitsPublicForm hread).mp hback) (by decide +kernel)

end ConnectionConfig.ConnectionString
