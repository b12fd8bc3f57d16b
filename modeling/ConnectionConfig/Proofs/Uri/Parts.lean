import ConnectionConfig.Proofs.Uri.Hosts

/-!
# URIs put together from parts

User information, hosts, a path of one segment and a query are put together to a URI. If nothing in
them is ignored and none of them runs into the next, reading the URI finds them again.
-/

namespace ConnectionConfig.Percent

/-- A character that is not escaped in a query is no blank or control, and does not end the
query. -/
theorem of_not_inQuery {c : Char} (h : inQuery c = false) : 0x20 < c.toNat ∧ c ≠ '#' := by
  obtain ⟨hcontrol, hmark⟩ := Bool.or_eq_false_iff.mp h
  have hne : ∀ d ∈ " \"#<>".toList, c ≠ d := by
    rintro d hd rfl
    rw [List.contains_iff_mem.mpr hd] at hmark
    cases hmark
  have hlow : ¬ c.toNat < 0x20 := of_decide_eq_false (Bool.or_eq_false_iff.mp hcontrol).1
  have hspace : c.toNat ≠ 0x20 := fun he ↦ hne ' ' (by decide) (Char.toNat_inj.mp he)
  exact ⟨by omega, hne '#' (by decide)⟩

end ConnectionConfig.Percent

namespace ConnectionConfig.Uri

/-- A plain character can stand anywhere: it ends neither authority nor path, and is not ignored. -/
theorem of_isPlain {c : Char} (h : Percent.isPlain c = true) :
    endsAuthority c = false ∧ endsPath c = false ∧ 0x20 < c.toNat :=
  Percent.forall_isPlain
    (p := fun c ↦ endsAuthority c = false ∧ endsPath c = false ∧ 0x20 < c.toNat)
    (by decide +kernel) h

/-- The parts of a URI but for the hosts: nothing in them is ignored or runs into another part. -/
structure Parts where
  userInfo : Option (List Char)
  segment : List Char
  query : Option (List Char)
  userInfo_spec : ∀ u ∈ userInfo, ∀ c ∈ u, endsAuthority c = false ∧ 0x20 < c.toNat
  segment_spec : ∀ c ∈ segment, endsPath c = false ∧ 0x20 < c.toNat
  query_spec : ∀ q ∈ query, ∀ c ∈ q, Percent.inQuery c = false

namespace Parts

variable (parts : Parts) {hosts : List Char}

/-- The query with its mark; empty if there is none. -/
def markedQuery : List Char := (parts.query.map ('?' :: ·)).getD []

/-- What follows the authority. -/
def rest : List Char := '/' :: parts.segment ++ parts.markedQuery

/-- The URI with some hosts. -/
def text (hosts : List Char) : List Char :=
  '/' :: '/' :: withUserInfo parts.userInfo (hosts ++ parts.rest)

private theorem not_endsPath_path : ∀ c ∈ '/' :: parts.segment, (!endsPath c) = true := by
  intro c hc
  rcases List.mem_cons.mp hc with rfl | hc
  · rfl
  · rw [(parts.segment_spec c hc).1, Bool.not_false]

private theorem endsPath_markedQuery :
    ∀ c ∈ parts.markedQuery.head?, (!endsPath c) = false := by
  intro c hc
  rw [markedQuery] at hc
  cases hq : parts.query with
  | none =>
    rw [hq] at hc
    cases hc
  | some q =>
    rw [hq] at hc
    cases hc
    rfl

/-- The path goes on to the query. -/
theorem takeWhile_rest : parts.rest.takeWhile (fun c ↦ !endsPath c) = '/' :: parts.segment :=
  Text.takeWhile_append_of_head parts.not_endsPath_path parts.endsPath_markedQuery

/-- What follows the path is the query. -/
theorem dropWhile_rest : parts.rest.dropWhile (fun c ↦ !endsPath c) = parts.markedQuery :=
  Text.dropWhile_append_of_head parts.not_endsPath_path parts.endsPath_markedQuery

/-- The query is found again after its mark. -/
theorem readQuery_markedQuery : readQuery parts.markedQuery = parts.query := by
  rw [markedQuery]
  cases hq : parts.query with
  | none => rfl
  | some q =>
    have hplain := parts.query_spec q hq
    have hend : ∀ c ∈ q, (c != '#') = true := fun c hc ↦
      bne_iff_ne.mpr (Percent.of_not_inQuery (hplain c hc)).2
    rw [Option.map_some, Option.getD_some, readQuery, List.takeWhile_eq_self_iff.mpr hend,
      Percent.encode_eq_self hplain]

/-- What follows the authority holds no blanks or controls. -/
theorem lt_of_mem_rest : ∀ c ∈ parts.rest, 0x20 < c.toNat := by
  intro c hc
  rcases List.mem_append.mp hc with hp | hq
  · rcases List.mem_cons.mp hp with rfl | hs
    · decide
    · exact (parts.segment_spec c hs).2
  · rw [markedQuery] at hq
    cases he : parts.query with
    | none =>
      rw [he] at hq
      cases hq
    | some q =>
      rw [he] at hq
      rcases List.mem_cons.mp hq with rfl | hm
      · decide
      · exact (Percent.of_not_inQuery (parts.query_spec q he c hm)).1

/-- The parts are found again if the hosts do not run into them. -/
theorem isAuthority (h : ∀ c ∈ hosts, c ≠ '@' ∧ endsAuthority c = false) :
    IsAuthority parts.userInfo hosts parts.rest where
  userInfo := fun u hu c hc ↦ (parts.userInfo_spec u hu c hc).1
  hosts := h
  rest := by
    intro c hc
    cases hc
    rfl

/-- The URI is clean if the hosts are. -/
theorem clean_text (h : ∀ c ∈ hosts, isHostChar c = true) :
    clean (parts.text hosts) = parts.text hosts := by
  apply clean_eq_self
  refine List.forall_mem_cons.mpr ⟨by decide, List.forall_mem_cons.mpr ⟨by decide, ?_⟩⟩
  intro c hc
  rcases mem_withUserInfo hc with ⟨u, hu, hm⟩ | rfl | hm
  · exact (parts.userInfo_spec u hu c hm).2
  · decide
  · rcases List.mem_append.mp hm with hh | hr
    · exact (isHostChar_spec (h c hh)).2.2
    · exact parts.lt_of_mem_rest c hr

/-- The URI is read part by part if the hosts are read as one host. -/
theorem read_text {host : List Char} {port : Option UInt16}
    (hchars : ∀ c ∈ hosts, isHostChar c = true)
    (hread : readHostAndPort hosts = .ok (host, port, []))
    (huser : host = [] → parts.userInfo = none) :
    read (parts.text hosts) = .ok {
      user := (readUserInfo (parts.userInfo.getD [])).1
      password := (readUserInfo (parts.userInfo.getD [])).2
      host, port
      path := readPathAfterAuthority ('/' :: parts.segment)
      query := parts.query } := by
  have hauth : IsAuthority parts.userInfo hosts parts.rest := parts.isAuthority fun c hc ↦
    have := isHostChar_spec (hchars c hc)
    ⟨this.1, this.2.1⟩
  have hempty : (parts.userInfo == some [] && hosts.isEmpty && !parts.rest.isEmpty) = false := by
    cases hosts with
    | nil =>
      cases hread
      rw [huser rfl]
      rfl
    | cons c hosts => simp
  have hhost : (host.isEmpty && (!(readUserInfo (parts.userInfo.getD [])).1.isEmpty ||
      (readUserInfo (parts.userInfo.getD [])).2.isSome)) = false := by
    cases host with
    | nil =>
      rw [huser rfl]
      rfl
    | cons c host => rfl
  rw [read, parts.clean_text hchars]
  show readAuthority _ = _
  rw [hauth.readAuthority_eq, ofAuthority, hempty, hread]
  simp only [Bool.false_eq_true, if_false, hhost, List.nil_append, takeWhile_rest, dropWhile_rest,
    readQuery_markedQuery]

/-- The URI is read part by part if it has one host, with or without a port. -/
theorem read_text_of_isHost {host : List Char} (h : IsHost host) (port : Option UInt16) :
    read (parts.text (host ++ portText port)) = .ok {
      user := (readUserInfo (parts.userInfo.getD [])).1
      password := (readUserInfo (parts.userInfo.getD [])).2
      host, port
      path := readPathAfterAuthority ('/' :: parts.segment)
      query := parts.query } :=
  parts.read_text (isHostChar_of_mem h.isPrinted port) (readHostAndPort_append_portText h port)
    fun he ↦ absurd he h.isPrinted.ne_nil

end Parts

end ConnectionConfig.Uri
