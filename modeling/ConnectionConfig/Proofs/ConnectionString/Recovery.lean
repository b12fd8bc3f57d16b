import ConnectionConfig.Proofs.ConnectionString.PlainHosts

/-!
# Escaped texts are recovered

Whoever writes a connection string can escape everything in it but the letters and digits of ASCII.
User, password and database, which are read as UTF-8, and the values of options, which are read as
in a form, then come back as they were, whatever they hold.
-/

namespace ConnectionConfig.Percent

/-- All characters but the letters and digits of ASCII. -/
def allButAlphanum (c : Char) : Bool := !c.isAlphanum

/-- Escaping all but letters and digits keeps parts apart. -/
theorem keepsApart_allButAlphanum : KeepsApart allButAlphanum where
  percent := by decide
  plus := by decide
  isPlain := fun c hc ↦ by
    rw [Percent.isPlain, (Bool.not_eq_eq_eq_not).mp hc]
    rfl

end ConnectionConfig.Percent

namespace ConnectionConfig.ConnectionString

open Percent (encode allButAlphanum keepsApart_allButAlphanum)
open Uri (portText)

/-- The text with everything escaped but letters and digits. -/
def escaped (text : String) : String := String.ofList (encode allButAlphanum text.toList)

/-- The texts that a connection string is written from. -/
structure Texts where
  user : String
  password : String
  host : String
  database : String
  options : List (String × String)

namespace Texts

/-- The query: escaped values under their keys, and nothing without options. -/
def queryText (t : Texts) : String :=
  if t.options = [] then ""
  else "?" ++ "&".intercalate (t.options.map fun (key, value) ↦ key ++ "=" ++ escaped value)

/-- What follows the scheme. -/
def text (t : Texts) : String :=
  "//" ++ escaped t.user ++ ":" ++ escaped t.password ++ "@" ++ t.host ++ "/" ++
    escaped t.database ++ t.queryText

/-- The entries that the texts stand for. -/
def entries (t : Texts) : List (String × String) :=
  (Property.host.name, t.host) :: (Property.user.name, t.user) ::
    (Property.password.name, t.password) :: (Property.database.name, t.database) :: t.options

/-- Nothing is blank, the host is a plain name with or without a port, the database is no dot
segment, and the keys of the options are supported and different from each other and from those of
the other texts. -/
structure AreInOrder (t : Texts) : Prop where
  user : Text.isBlank t.user = false
  password : Text.isBlank t.password = false
  host : IsPlainEntry t.host.toList
  database : Text.isBlank t.database = false
  not_dot : t.database ≠ "."
  not_dots : t.database ≠ ".."
  nodup_keys : (t.options.map Prod.fst).Nodup
  supported : ∀ option ∈ t.options, Schema.standard.supports option.1 = true
  not_part : ∀ option ∈ t.options,
    ∀ p ∈ [Property.host, .user, .password, .database], option.1 ≠ p.name
  values : ∀ option ∈ t.options, Text.isBlank option.2 = false

variable {t : Texts}

/-- Keys that are supported hold letters and digits only. -/
theorem AreInOrder.isPlainKey (h : t.AreInOrder) : ∀ option ∈ t.options, IsPlainKey option.1 := by
  intro option ho
  obtain ⟨e, he, hn⟩ := Schema.exists_of_supports (h.supported option ho)
  rw [← hn]
  exact Schema.isAlphanum_of_mem_name he

/-- The parts of the URI. -/
def AreInOrder.parts (h : t.AreInOrder) : Uri.Parts where
  userInfo := some (encode allButAlphanum t.user.toList ++
    ':' :: encode allButAlphanum t.password.toList)
  segment := encode allButAlphanum t.database.toList
  query := escapedQuery? (encode allButAlphanum) t.options
  userInfo_spec := by
    rintro u hu c hc
    cases hu
    have hspec : Percent.isPlain c = true → Uri.endsAuthority c = false ∧ 0x20 < c.toNat :=
      fun hp ↦ ⟨(Uri.of_isPlain hp).1, (Uri.of_isPlain hp).2.2⟩
    rcases List.mem_append.mp hc with hu | hp
    · exact hspec (keepsApart_allButAlphanum.isPlain_of_mem_encode c hu)
    · rcases List.mem_cons.mp hp with rfl | hp
      · decide
      · exact hspec (keepsApart_allButAlphanum.isPlain_of_mem_encode c hp)
  segment_spec := fun c hc ↦
    (Uri.of_isPlain (keepsApart_allButAlphanum.isPlain_of_mem_encode c hc)).2
  query_spec := not_inQuery_of_mem_escapedQuery? (escapesValues_encode keepsApart_allButAlphanum)
    h.isPlainKey

private theorem toList_queryText (h : t.AreInOrder) :
    t.queryText.toList = h.parts.markedQuery := by
  show _ = ((escapedQuery? (encode allButAlphanum) t.options).map ('?' :: ·)).getD []
  have hoptions : (t.options.map fun (key, value) ↦ key ++ "=" ++ escaped value).map
      String.toList = t.options.map (escapedOption (encode allButAlphanum)) := by
    rw [List.map_map]
    apply List.map_congr_left
    intro option _
    simp [escapedOption, escaped]
  rw [queryText, escapedQuery?]
  split
  · rfl
  · rw [String.toList_append, String.toList_intercalate, hoptions]
    rfl

/-- What follows the scheme is the URI of the parts. -/
theorem toList_text (h : t.AreInOrder) : t.text.toList = h.parts.text t.host.toList := by
  rw [text]
  simp only [String.toList_append, toList_queryText h, escaped, String.toList_ofList]
  simp [Uri.Parts.text, Uri.Parts.rest, Uri.withUserInfo, AreInOrder.parts]

private theorem readUserInfo_parts (h : t.AreInOrder) :
    Uri.readUserInfo (h.parts.userInfo.getD []) =
      (encode allButAlphanum t.user.toList, some (encode allButAlphanum t.password.toList)) := by
  have hplain : ∀ cs, ∀ c ∈ encode allButAlphanum cs, Percent.isPlain c = true :=
    fun _ ↦ keepsApart_allButAlphanum.isPlain_of_mem_encode
  have hcolon : ':' ∉ encode allButAlphanum t.user.toList := fun hc ↦
    absurd (hplain _ _ hc) (by decide)
  have hpassword : encode allButAlphanum t.password.toList ≠ [] := by
    apply Percent.encode_ne_nil
    intro he
    have hblank := h.password
    rw [Text.isBlank, he] at hblank
    cases hblank
  obtain ⟨c, password, he⟩ := List.exists_cons_of_ne_nil hpassword
  show Uri.readUserInfo (_ ++ ':' :: _) = _
  rw [Uri.readUserInfo, Text.cutFirst?_append_cons _ hcolon, he]
  dsimp only
  rw [← he, Percent.encode_inUserInfo_of_isPlain (hplain _),
    Percent.encode_inUserInfo_of_isPlain (hplain _)]

private theorem readPart_escaped (p : Property) (text : String) :
    readPart p (encode allButAlphanum text.toList) = .ok text := by
  rw [readPart_encode keepsApart_allButAlphanum.percent, String.ofList_toList]

private theorem readPart_firstSegment (h : t.AreInOrder) :
    readPart .database (firstSegment (Uri.readPathAfterAuthority ('/' :: h.parts.segment))) =
      .ok t.database := by
  have hne : ∀ dots : String, t.database ≠ dots → t.database.toList ≠ dots.toList :=
    fun _ hd he ↦ hd (String.toList_inj.mp he)
  have hsegment := firstSegment_readPathAfterAuthority keepsApart_allButAlphanum
    (hne "." h.not_dot) (hne ".." h.not_dots)
  exact (congrArg (readPart .database) hsegment).trans (readPart_escaped .database t.database)

private theorem readQuery_parts (h : t.AreInOrder) :
    readQuery Schema.standard (h.parts.query.getD []) = .ok t.options := by
  have hread := readQuery_escapedQuery? Schema.standard
    (escapesValues_encode keepsApart_allButAlphanum) h.isPlainKey
  rw [List.filter_eq_self.mpr h.supported] at hread
  exact hread

/-- What the stages of reading find. -/
private def AreInOrder.stages (h : t.AreInOrder) (name : List Char) (port : Option UInt16) :
    Stages where
  uriText := h.parts.text t.host.toList
  hostList := none
  uri :=
    { user := encode allButAlphanum t.user.toList
      password := some (encode allButAlphanum t.password.toList)
      host := name
      port
      path := Uri.readPathAfterAuthority ('/' :: h.parts.segment)
      query := h.parts.query }
  user := t.user
  password := [t.password]
  database := t.database
  query := t.options
  options := []

private theorem of_stages (h : t.AreInOrder) {name : List Char} {port : Option UInt16}
    (hname : IsPlainName name) (hhost : t.host.toList = name ++ portText port) :
    (h.stages name port).Of Schema.standard none (h.parts.text t.host.toList) where
  hosts :=
    separateHosts_of_not_mem
      (h.parts.isAuthority fun c hc ↦
        have hspec := Uri.isHostChar_spec (isHostChar_of_mem_plainEntry h.host c hc)
        ⟨hspec.1, hspec.2.1⟩)
      fun hm ↦ (mem_plainEntry h.host _ hm).1 rfl
  uri := by
    have hread := h.parts.read_text_of_isHost (.inl (isName_of_isPlainName hname)) port
    rw [← hhost, readUserInfo_parts h] at hread
    exact hread
  user := readPart_escaped .user t.user
  password := by
    show [encode allButAlphanum t.password.toList].mapM (readPart .password) = .ok [t.password]
    rw [List.mapM_cons, readPart_escaped]
    rfl
  database := readPart_firstSegment h
  query := readQuery_parts h
  options := rfl

private theorem entries_stages (h : t.AreInOrder) {name : List Char} {port : Option UInt16}
    (hhost : t.host.toList = name ++ portText port) : (h.stages name port).entries = t.entries := by
  have hs : (h.stages name port).host = t.host := by
    rw [Stages.host_eq, AreInOrder.stages, Option.getD_none, hostText_eq, ← hhost,
      String.ofList_toList]
  rw [Stages.entries, hs]
  simp [AreInOrder.stages, entries]

private theorem toList_offerAll_entries (h : t.AreInOrder) :
    (PropertyMap.empty.offerAll t.entries).toList = t.entries := by
  have hhost : Text.isBlank t.host = false :=
    isBlank_of_isPlainHosts ⟨[t.host.toList], by simp, by simpa using h.host, by simp⟩
  have hblank : ∀ e ∈ t.entries, (!Text.isBlank e.2) = true := by
    simp only [entries, List.forall_mem_cons, hhost, h.user, h.password, h.database,
      Bool.not_false, true_and]
    exact fun option ho ↦ by rw [h.values option ho, Bool.not_false]
  have hnodup : (t.entries.map Prod.fst).Nodup := by
    show ([Property.host, .user, .password, .database].map Property.name ++
      t.options.map Prod.fst).Nodup
    refine List.nodup_append.mpr ⟨by decide, h.nodup_keys, ?_⟩
    intro key hkey other hother
    obtain ⟨p, hp, rfl⟩ := List.mem_map.mp hkey
    obtain ⟨option, ho, rfl⟩ := List.mem_map.mp hother
    exact (h.not_part option ho p hp).symm
  rw [PropertyMap.toList_offerAll_empty, List.filter_eq_self.mpr hblank,
    PropertyMap.firstOfEach_eq_self hnodup]

end Texts

/-- A connection string that is written from texts in order, with everything escaped but letters and
digits, is read, and holds these texts in their order, each as it was. -/
theorem read_text_of_areInOrder {t : Texts} (h : t.AreInOrder) :
    ∃ m, read Schema.standard scheme none PropertyMap.empty (scheme ++ t.text) = .ok m ∧
      m.toList = t.entries := by
  obtain ⟨name, port, hname, hhost⟩ := h.host
  refine ⟨PropertyMap.empty.offerAll t.entries, ?_, Texts.toList_offerAll_entries h⟩
  rw [read_scheme_append_eq_ok_iff (Texts.toList_text h)]
  exact ⟨h.stages name port, Texts.of_stages h hname hhost, by rw [Texts.entries_stages h hhost]⟩

/-- Texts with white space at their ends, controls, escapes of their own, signs that mean something
else and letters beyond ASCII, and a host with the last port. -/
theorem read_text_of_hard_texts :
    let t : Texts :=
      { user := " a@b:c/d%41\t"
        password := "+&=?#%;\x00\n\x85ü€😀 "
        host := "a_b-c.0:65535"
        database := "/../x\x7f "
        options := [("appName", " 1+1=2&\u2028 "), ("tls", "%zz")] }
    t.text = "//%20a%40b%3Ac%2Fd%2541%09:%2B%26%3D%3F%23%25%3B%00%0A%C2%85%C3%BC%E2%82%AC" ++
        "%F0%9F%98%80%20@a_b-c.0:65535/%2F%2E%2E%2Fx%7F%20?appName=%201%2B1%3D2%26%E2%80%A8%20" ++
        "&tls=%25zz" ∧
      ∃ m, read Schema.standard scheme none PropertyMap.empty (scheme ++ t.text) = .ok m ∧
        m.toList = [("host", "a_b-c.0:65535"), ("user", " a@b:c/d%41\t"),
          ("password", "+&=?#%;\x00\n\x85ü€😀 "), ("database", "/../x\x7f "),
          ("appName", " 1+1=2&\u2028 "), ("tls", "%zz")] := by
  intro t
  have horder : t.AreInOrder :=
    { user := by decide +kernel
      password := by decide +kernel
      host := ⟨"a_b-c.0".toList, some 65535, by decide +kernel, by decide +kernel⟩
      database := by decide +kernel
      not_dot := by decide +kernel
      not_dots := by decide +kernel
      nodup_keys := by decide +kernel
      supported := by decide +kernel
      not_part := by decide +kernel
      values := by decide +kernel }
  exact ⟨by decide +kernel, read_text_of_areInOrder horder⟩

end ConnectionConfig.ConnectionString
