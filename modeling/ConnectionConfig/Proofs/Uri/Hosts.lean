import Mathlib.Data.List.TakeWhile
import ConnectionConfig.Proofs.Uri.Authority
import ConnectionConfig.Proofs.Uri.Escapes
import ConnectionConfig.Uri.Basic

/-!
# Hosts that read as themselves

A host is printed as a name without characters that would be escaped or refused, or as an IPv6
address in its one printed form. With a port in shortest decimal form such a host reads as itself,
and nothing else does.
-/

namespace ConnectionConfig

namespace Ipv6

/-- Whether a character can stand in a printed address: a small hexadecimal digit or a colon. -/
def isAddressChar (c : Char) : Bool := c.isDigit || ('a' ≤ c && c ≤ 'f') || c = ':'

/-- A character of a printed address is one of ASCII. -/
theorem toNat_lt_of_isAddressChar {c : Char} (h : isAddressChar c = true) : c.toNat < 0x80 := by
  simp only [isAddressChar, Bool.or_eq_true, Bool.and_eq_true, decide_eq_true_eq] at h
  rcases h with (hd | ⟨-, hf⟩) | rfl
  · exact Text.toNat_lt_of_isDigit hd
  · exact Text.toNat_lt_of_le hf (by decide)
  · decide

private theorem isAddressChar_digit : ∀ n < 16, isAddressChar (Nat.digitChar n) = true := by
  decide

private theorem isAddressChar_of_mem_toDigits (n : Nat) :
    ∀ c ∈ Nat.toDigits 16 n, isAddressChar c = true := by
  induction n using Nat.strongRecOn with
  | ind n ih =>
    intro c hc
    rw [Nat.toDigits_eq_if (by decide)] at hc
    split at hc
    · next hn =>
      rw [List.mem_singleton.mp hc]
      exact isAddressChar_digit n hn
    · next hn =>
      rcases List.mem_append.mp hc with hd | hd
      · exact ih _ (by omega) c hd
      · rw [List.mem_singleton.mp hd]
        exact isAddressChar_digit _ (by omega)

private theorem isAddressChar_of_mem_printGroups (groups : List Nat) :
    ∀ c ∈ printGroups groups, isAddressChar c = true := by
  intro c hc
  rcases Text.mem_intercalate hc with rfl | ⟨part, hp, hc⟩
  · rfl
  · obtain ⟨g, -, rfl⟩ := List.mem_map.mp hp
    exact isAddressChar_of_mem_toDigits g c hc

/-- A printed address holds small hexadecimal digits and colons only. -/
theorem isAddressChar_of_mem_print (groups : List Nat) :
    ∀ c ∈ print groups, isAddressChar c = true := by
  intro c hc
  rw [print] at hc
  dsimp only at hc
  split at hc
  · exact isAddressChar_of_mem_printGroups _ c hc
  · simp only [List.mem_append, List.mem_cons] at hc
    rcases hc with hl | rfl | rfl | hr
    · exact isAddressChar_of_mem_printGroups _ c hl
    · rfl
    · rfl
    · exact isAddressChar_of_mem_printGroups _ c hr

end Ipv6

namespace Uri

/-- A port as it is printed after a host. -/
def portText : Option UInt16 → List Char
  | some port => ':' :: (Decimal.ofUInt16 port).toList
  | none => []

/-- A printed port holds digits only. -/
theorem isDigit_of_mem_ofUInt16 {port : UInt16} :
    ∀ c ∈ (Decimal.ofUInt16 port).toList, c.isDigit = true := by
  intro c hc
  rw [Decimal.ofUInt16, String.toList_ofList] at hc
  exact Nat.isDigit_of_mem_toDigits (by decide) (by decide) hc

/-- A printed port reads as itself. -/
theorem readPort_portText (port : Option UInt16) : readPort (portText port) = .ok (port, []) := by
  cases port with
  | none => rfl
  | some port =>
    have hne : (Decimal.ofUInt16 port).toList.isEmpty = false := by
      rw [Decimal.ofUInt16, String.toList_ofList, Decimal.ofNat]
      simp
    have hn : Nat.ofDigitChars 10 (Decimal.ofUInt16 port).toList 0 = port.toNat := by
      rw [Decimal.ofUInt16, String.toList_ofList]
      exact Nat.ofDigitChars_ten_toDigits
    have hlt := port.toNat_lt
    rw [portText, readPort, List.takeWhile_eq_self_iff.mpr isDigit_of_mem_ofUInt16,
      List.dropWhile_eq_nil_iff.mpr isDigit_of_mem_ofUInt16]
    simp only [hn, hne, List.isEmpty_nil, Bool.true_or, Bool.not_true, Bool.or_false,
      Bool.false_eq_true, if_false, UInt16.ofNat_toNat]
    exact if_neg (by simp; omega)

/-! ## The host -/

/-- A name that reads as itself: it is not empty, and no character is escaped or refused. -/
structure IsName (cs : List Char) : Prop where
  ne_nil : cs ≠ []
  not_escaped : ∀ c ∈ cs, Percent.isControl c = false
  not_refused : ∀ c ∈ cs, isForbiddenInHost c = false

/-- An IPv6 address in its printed form, in square brackets. -/
def IsLiteral (cs : List Char) : Prop :=
  ∃ groups, Ipv6.read? (Ipv6.print groups) = some groups ∧ cs = '[' :: Ipv6.print groups ++ [']']

/-- A host that reads as itself. -/
def IsHost (cs : List Char) : Prop := IsName cs ∨ IsLiteral cs

/-- A host that reads as itself, with a port in shortest decimal form or without one. -/
def IsHostWithPort (cs : List Char) : Prop :=
  ∃ host port, IsHost host ∧ cs = host ++ portText port

instance (cs : List Char) : Decidable (IsName cs) :=
  decidable_of_iff (cs ≠ [] ∧ cs.all (fun c ↦ !Percent.isControl c) = true ∧
    cs.all (fun c ↦ !isForbiddenInHost c) = true)
    ⟨fun h ↦ ⟨h.1, by simpa using h.2.1, by simpa using h.2.2⟩,
      fun h ↦ ⟨h.1, by simpa using h.2, by simpa using h.3⟩⟩

private theorem splitHost_false_append {cs : List Char} (rest : List Char)
    (h : ∀ c ∈ cs, c ≠ ':' ∧ c ≠ '[' ∧ c ≠ ']') :
    splitHost false (cs ++ rest) =
      (cs ++ (splitHost false rest).1, (splitHost false rest).2) := by
  induction cs with
  | nil => rfl
  | cons c cs ih =>
    obtain ⟨hc, ho, he⟩ := h c List.mem_cons_self
    rw [List.cons_append, splitHost]
    simp [hc, ho, he, ih fun a ha ↦ h a (List.mem_cons_of_mem _ ha)]

private theorem splitHost_true_append {cs : List Char} (rest : List Char)
    (h : ∀ c ∈ cs, c ≠ '[' ∧ c ≠ ']') :
    splitHost true (cs ++ rest) = (cs ++ (splitHost true rest).1, (splitHost true rest).2) := by
  induction cs with
  | nil => rfl
  | cons c cs ih =>
    obtain ⟨ho, he⟩ := h c List.mem_cons_self
    rw [List.cons_append, splitHost]
    simp [ho, he, ih fun a ha ↦ h a (List.mem_cons_of_mem _ ha)]

private theorem ne_bracket_of_isAddressChar {c : Char} (h : Ipv6.isAddressChar c = true) :
    c ≠ '[' ∧ c ≠ ']' := by
  constructor
  · rintro rfl
    cases h
  · rintro rfl
    cases h

private theorem ne_of_isForbiddenInHost {c d : Char} (h : isForbiddenInHost c = false)
    (hd : isForbiddenInHost d = true) : c ≠ d := by
  rintro rfl
  rw [hd] at h
  cases h

private theorem splitHost_of_head {rest : List Char} (h : ∀ c ∈ rest.head?, c = ':') :
    splitHost false rest = ([], rest) := by
  cases rest with
  | nil => rfl
  | cons c rest =>
    rw [h c rfl]
    rfl

/-- A name is found again in front of a colon. -/
theorem splitHost_name_append {name rest : List Char}
    (h : ∀ c ∈ name, isForbiddenInHost c = false) (hr : ∀ c ∈ rest.head?, c = ':') :
    splitHost false (name ++ rest) = (name, rest) := by
  rw [splitHost_false_append, splitHost_of_head hr, List.append_nil]
  intro c hc
  have hf := h c hc
  exact ⟨ne_of_isForbiddenInHost hf (by decide), ne_of_isForbiddenInHost hf (by decide),
    ne_of_isForbiddenInHost hf (by decide)⟩

/-- A text in square brackets is found again in front of a colon. -/
theorem splitHost_brackets_append {body rest : List Char}
    (h : ∀ c ∈ body, c ≠ '[' ∧ c ≠ ']') (hr : ∀ c ∈ rest.head?, c = ':') :
    splitHost false ('[' :: body ++ [']'] ++ rest) = ('[' :: body ++ [']'], rest) := by
  have hclose : splitHost true (']' :: rest) = ([']'], rest) := by
    rw [splitHost]
    simp [splitHost_of_head hr]
  have hbody := splitHost_true_append (']' :: rest) h
  rw [hclose] at hbody
  rw [List.cons_append, List.cons_append, List.append_assoc, List.singleton_append, splitHost]
  simp [hbody]

/-- A host in the form in which hosts are printed: a name, or an address in square brackets. -/
def IsPrinted (cs : List Char) : Prop :=
  IsName cs ∨ ∃ groups, cs = '[' :: Ipv6.print groups ++ [']']

/-- A host that reads as itself is printed. -/
theorem IsHost.isPrinted {host : List Char} (h : IsHost host) : IsPrinted host := by
  rcases h with hn | ⟨groups, -, rfl⟩
  · exact .inl hn
  · exact .inr ⟨groups, rfl⟩

/-- A printed host is found again in front of a port. -/
theorem splitHost_append_portText {host : List Char} (h : IsPrinted host) (port : Option UInt16) :
    splitHost false (host ++ portText port) = (host, portText port) := by
  have hport : ∀ c ∈ (portText port).head?, c = ':' := by
    intro c hc
    cases port with
    | none => cases hc
    | some port =>
      cases hc
      rfl
  rcases h with hn | ⟨groups, rfl⟩
  · exact splitHost_name_append hn.not_refused hport
  · exact splitHost_brackets_append (fun c hc ↦
      ne_bracket_of_isAddressChar (Ipv6.isAddressChar_of_mem_print groups c hc)) hport

/-- A text in which nothing is refused is read as a name with escapes. -/
theorem readHost_name {name : List Char} (h : ∀ c ∈ name, isForbiddenInHost c = false) :
    readHost name = .ok (Percent.encode Percent.isControl name) := by
  have hany : name.any isForbiddenInHost = false := by simpa using h
  rw [readHost]
  · rw [hany]
    rfl
  · rintro rest rfl
    exact absurd (h '[' List.mem_cons_self) (by decide)

/-- An address in square brackets is read as its printed form. -/
theorem readHost_brackets {body : List Char} {groups : List Nat}
    (h : Ipv6.read? body = some groups) :
    readHost ('[' :: body ++ [']']) = .ok ('[' :: Ipv6.print groups ++ [']']) := by
  rw [List.cons_append, readHost]
  simp [h]

/-- A host that reads as itself. -/
theorem readHost_of_isHost {host : List Char} (h : IsHost host) : readHost host = .ok host := by
  rcases h with hn | ⟨groups, hg, rfl⟩
  · rw [readHost_name hn.not_refused, Percent.encode_eq_self hn.not_escaped]
  · exact readHost_brackets hg

/-- A printed host is not empty. -/
theorem IsPrinted.ne_nil {host : List Char} (h : IsPrinted host) : host ≠ [] := by
  rcases h with hn | ⟨groups, rfl⟩
  · exact hn.ne_nil
  · exact List.cons_ne_nil _ _

/-- A host that reads as itself reads so with a port, too. -/
theorem readHostAndPort_append_portText {host : List Char} (h : IsHost host)
    (port : Option UInt16) :
    readHostAndPort (host ++ portText port) = .ok (host, port, []) := by
  have hne : host.isEmpty = false := by simpa using h.isPrinted.ne_nil
  rw [readHostAndPort, splitHost_append_portText h.isPrinted]
  simp only [readHost_of_isHost h, hne, Bool.false_and, Bool.false_eq_true, if_false,
    readPort_portText]
  rfl

/-! ## What is read as a host -/

/-- A text without characters that are refused is a name once it has escapes. -/
theorem isName_encode {cs : List Char} (hne : cs ≠ [])
    (h : ∀ c ∈ cs, isForbiddenInHost c = false) :
    IsName (Percent.encode Percent.isControl cs) := by
  have hescape : ∀ c, Percent.isEscapeChar c = true →
      Percent.isControl c = false ∧ isForbiddenInHost c = false := fun c hc ↦
    Text.forall_ascii (p := fun c ↦ Percent.isEscapeChar c = true →
      Percent.isControl c = false ∧ isForbiddenInHost c = false) (by decide +kernel)
      (Percent.toNat_lt_of_isEscapeChar hc) hc
  refine ⟨Percent.encode_ne_nil _ hne, fun c hc ↦ ?_, fun c hc ↦ ?_⟩
  · rcases Percent.mem_encode hc with he | ⟨-, hn⟩
    · exact (hescape c he).1
    · exact hn
  · rcases Percent.mem_encode hc with he | ⟨hm, -⟩
    · exact (hescape c he).2
    · exact h c hm

/-- A host is read as an address in square brackets, or as a name with escapes. -/
theorem of_readHost {cs host : List Char} (h : readHost cs = .ok host) :
    (∃ body groups, cs = '[' :: body ++ [']'] ∧ Ipv6.read? body = some groups ∧
      host = '[' :: Ipv6.print groups ++ [']']) ∨
    ((∀ c ∈ cs, isForbiddenInHost c = false) ∧ host = Percent.encode Percent.isControl cs) := by
  rw [readHost.eq_def] at h
  split at h
  · next rest =>
    split at h
    · next hlast =>
      split at h
      · next groups hg =>
        cases h
        obtain ⟨body, rfl⟩ := List.getLast?_eq_some_iff.mp hlast
        rw [List.dropLast_concat] at hg
        exact .inl ⟨body, groups, rfl, hg, rfl⟩
      · cases h
    · cases h
  · split at h
    · cases h
    · next hany =>
      cases h
      exact .inr ⟨by simpa using hany, rfl⟩

/-- What is read as a host is printed, unless the text is empty. -/
theorem isPrinted_of_readHost {cs host : List Char} (h : readHost cs = .ok host) :
    cs = [] ∧ host = [] ∨ IsPrinted host := by
  rcases of_readHost h with ⟨-, groups, -, -, rfl⟩ | ⟨hcs, rfl⟩
  · exact .inr (.inr ⟨groups, rfl⟩)
  · by_cases hne : cs = []
    · rw [hne]
      exact .inl ⟨rfl, rfl⟩
    · exact .inr (.inl (isName_encode hne hcs))

/-- A printed host that reads as itself. -/
theorem IsPrinted.isHost {host : List Char} (hp : IsPrinted host) (h : readHost host = .ok host) :
    IsHost host := by
  rcases hp with hn | ⟨groups, rfl⟩
  · exact .inl hn
  · rw [List.cons_append, readHost] at h
    split at h
    · split at h
      · next found hr =>
        rw [List.dropLast_concat] at hr
        have hprint : Ipv6.print found = Ipv6.print groups := by simpa using h
        refine .inr ⟨found, ?_, by rw [hprint]⟩
        rw [hprint, hr]
      · cases h
    · cases h

/-- Host and port are read from the two sides of the split. -/
theorem readHost_of_readHostAndPort {cs host rest : List Char} {port : Option UInt16}
    (h : readHostAndPort cs = .ok (host, port, rest)) :
    readHost (splitHost false cs).1 = .ok host ∧
      (host = [] → (splitHost false cs).2.head? ≠ some ':') ∧
      readPort (splitHost false cs).2 = .ok (port, rest) := by
  rw [readHostAndPort] at h
  dsimp only at h
  split at h
  · cases h
  · next found hf =>
    split at h
    · cases h
    · next hcolon =>
      cases hp : readPort (splitHost false cs).2 with
      | error e =>
        rw [hp] at h
        cases h
      | ok parts =>
        rw [hp] at h
        cases h
        refine ⟨hf, ?_, rfl⟩
        rintro rfl hc
        exact hcolon (by simp [hc])

/-- Only of an empty text an empty host is read. -/
theorem eq_nil_of_readHostAndPort {cs rest : List Char} {port : Option UInt16}
    (h : readHostAndPort cs = .ok ([], port, rest)) : cs = [] ∧ port = none ∧ rest = [] := by
  obtain ⟨hhost, hcolon, -⟩ := readHost_of_readHostAndPort h
  have hsplit : (splitHost false cs).1 = [] := by
    rcases isPrinted_of_readHost hhost with ⟨he, -⟩ | hp
    · exact he
    · exact absurd rfl hp.ne_nil
  cases cs with
  | nil =>
    cases h
    exact ⟨rfl, rfl, rfl⟩
  | cons c cs =>
    rw [splitHost] at hsplit hcolon
    split at hsplit
    · next hc =>
      have hc : c = ':' := by simpa using hc
      rw [hc] at hcolon
      exact absurd rfl (hcolon rfl)
    · cases hsplit

/-- Where there are hosts, the parts of a URI are found if host and port are. -/
theorem ofAuthority_of_ne_nil {hosts : List Char} (userInfo : Option (List Char))
    (rest : List Char) (hne : hosts ≠ []) :
    ofAuthority userInfo hosts rest = (readHostAndPort hosts).map fun (host, port, afterPort) ↦ {
      user := (readUserInfo (userInfo.getD [])).1
      password := (readUserInfo (userInfo.getD [])).2
      host, port
      path := readPathAfterAuthority ((afterPort ++ rest).takeWhile fun c ↦ !endsPath c)
      query := readQuery ((afterPort ++ rest).dropWhile fun c ↦ !endsPath c) } := by
  have hempty : hosts.isEmpty = false := by simpa using hne
  rw [ofAuthority, hempty]
  simp only [Bool.and_false, Bool.false_and, Bool.false_eq_true, if_false]
  cases hread : readHostAndPort hosts with
  | error e => rfl
  | ok found =>
    obtain ⟨host, port, afterPort⟩ := found
    have hhost : host.isEmpty = false := by
      rw [List.isEmpty_eq_false_iff]
      rintro rfl
      exact hne (eq_nil_of_readHostAndPort hread).1
    simp only [hhost, Bool.false_and, Bool.false_eq_true, if_false]
    rfl

/-! ## The characters of a printed host -/

/-- Whether a character can stand in a printed host with a port: it is a printable one of ASCII
other than a blank, and ends neither the authority nor the user information. -/
def isHostChar (c : Char) : Bool :=
  0x20 < c.toNat && c.toNat < 0x7F && c ≠ '@' && !endsAuthority c

/-- A character of a printed host ends neither the user information nor the authority, and is no
blank or control. -/
theorem isHostChar_spec {c : Char} (h : isHostChar c = true) :
    c ≠ '@' ∧ endsAuthority c = false ∧ 0x20 < c.toNat := by
  simp only [isHostChar, Bool.and_eq_true, decide_eq_true_eq, Bool.not_eq_true'] at h
  exact ⟨h.1.2, h.2, h.1.1.1⟩

private theorem toNat_lt_of_isHostChar {c : Char} (h : isHostChar c = true) : c.toNat < 0x80 := by
  simp only [isHostChar, Bool.and_eq_true, decide_eq_true_eq] at h
  have hlt := h.1.1.2
  omega

/-- A character of a printed host is no white space. -/
theorem isSpace_of_isHostChar {c : Char} (h : isHostChar c = true) : Text.isSpace c = false :=
  Text.forall_ascii (p := fun c ↦ isHostChar c = true → Text.isSpace c = false)
    (by decide +kernel) (toNat_lt_of_isHostChar h) h

/-- A name runs into nothing. -/
theorem isHostChar_of_isName {cs : List Char} (h : IsName cs) :
    ∀ c ∈ cs, isHostChar c = true := by
  intro c hc
  have hr := h.not_refused c hc
  have hs : c ≠ ' ' := ne_of_isForbiddenInHost hr (by decide)
  have hn : ¬ c.toNat < 0x20 ∧ ¬ 0x7F ≤ c.toNat := by
    have := h.not_escaped c hc
    simpa only [Percent.isControl, Bool.or_eq_false_iff, decide_eq_false_iff_not] using this
  have hsn : c.toNat ≠ 0x20 := fun e ↦ hs (Char.toNat_inj.mp e)
  simp only [isHostChar, endsAuthority, Bool.and_eq_true, Bool.not_eq_true', Bool.or_eq_false_iff,
    decide_eq_true_eq, decide_eq_false_iff_not]
  exact ⟨⟨⟨by omega, by omega⟩, ne_of_isForbiddenInHost hr (by decide)⟩,
    ⟨ne_of_isForbiddenInHost hr (by decide), ne_of_isForbiddenInHost hr (by decide)⟩,
    ne_of_isForbiddenInHost hr (by decide)⟩

private theorem isHostChar_of_isDigit {c : Char} (h : c.isDigit = true) : isHostChar c = true :=
  Text.forall_ascii (p := fun c ↦ c.isDigit = true → isHostChar c = true) (by decide +kernel)
    (Text.toNat_lt_of_isDigit h) h

private theorem isHostChar_of_isAddressChar {c : Char} (h : Ipv6.isAddressChar c = true) :
    isHostChar c = true :=
  Text.forall_ascii (p := fun c ↦ Ipv6.isAddressChar c = true → isHostChar c = true)
    (by decide +kernel) (Ipv6.toNat_lt_of_isAddressChar h) h

private theorem isHostChar_of_mem_portText {port : Option UInt16} :
    ∀ c ∈ portText port, isHostChar c = true := by
  intro c hc
  cases port with
  | none => cases hc
  | some port =>
    rcases List.mem_cons.mp hc with rfl | hd
    · rfl
    · exact isHostChar_of_isDigit (isDigit_of_mem_ofUInt16 c hd)

/-- A printed host with a port runs into nothing. -/
theorem isHostChar_of_mem {host : List Char} (h : IsPrinted host) (port : Option UInt16) :
    ∀ c ∈ host ++ portText port, isHostChar c = true := by
  intro c hc
  rcases List.mem_append.mp hc with hh | hp
  · rcases h with hn | ⟨groups, rfl⟩
    · exact isHostChar_of_isName hn c hh
    · rcases List.mem_append.mp hh with ho | he
      · rcases List.mem_cons.mp ho with rfl | ha
        · rfl
        · exact isHostChar_of_isAddressChar (Ipv6.isAddressChar_of_mem_print groups c ha)
      · rw [List.mem_singleton.mp he]
        rfl
  · exact isHostChar_of_mem_portText c hp

/-- A text in which a printed host with a port was found, and which is that, reads as itself. -/
theorem isHost_of_readHostAndPort {userInfo : Option (List Char)}
    {hosts rest host after : List Char} {port port' : Option UInt16}
    (ha : IsAuthority userInfo hosts rest) (hp : IsPrinted host)
    (he : withUserInfo userInfo (hosts ++ rest) = host ++ portText port)
    (hr : readHostAndPort (hosts.filter fun c ↦ !isIgnored c) = .ok (host, port', after)) :
    hosts = host ++ portText port ∧ IsHost host := by
  have hchars : ∀ c ∈ withUserInfo userInfo (hosts ++ rest), isHostChar c = true := by
    rw [he]
    exact isHostChar_of_mem hp port
  have hnone : userInfo = none := by
    cases userInfo with
    | none => rfl
    | some u => exact absurd (hchars '@' (by simp [withUserInfo])) (by decide)
  rw [hnone] at hchars he
  have hrest : rest = [] := by
    cases rest with
    | nil => rfl
    | cons c rest =>
      have hc := ha.rest c rfl
      rw [(isHostChar_spec (hchars c (by simp [withUserInfo]))).2.1] at hc
      cases hc
  rw [hrest, List.append_nil] at hchars he
  have hhosts : hosts = host ++ portText port := he
  have hlt : ∀ c ∈ hosts, 0x20 < c.toNat := fun c hc ↦ (isHostChar_spec (hchars c hc)).2.2
  rw [filter_eq_self_of_lt hlt, hhosts] at hr
  have hself := (readHost_of_readHostAndPort hr).1
  rw [splitHost_append_portText hp] at hself
  exact ⟨hhosts, hp.isHost hself⟩

/-- Whether a text is put together again from the host and the port that are read from it. -/
def readsAsItself (cs : List Char) : Bool :=
  match readHostAndPort cs with
  | .ok (host, port, _) => !host.isEmpty && host ++ portText port == cs
  | .error _ => false

/-- A host with a port reads as itself, and nothing else does. -/
theorem isHostWithPort_iff_readsAsItself {cs : List Char} :
    IsHostWithPort cs ↔ readsAsItself cs = true := by
  rw [readsAsItself]
  constructor
  · rintro ⟨host, port, hh, rfl⟩
    rw [readHostAndPort_append_portText hh]
    simp [hh.isPrinted.ne_nil]
  · intro h
    split at h
    · next host port rest hr =>
      simp only [Bool.and_eq_true, Bool.not_eq_true', List.isEmpty_eq_false_iff, beq_iff_eq] at h
      obtain ⟨hne, rfl⟩ := h
      have hhost := (readHost_of_readHostAndPort hr).1
      rcases isPrinted_of_readHost hhost with ⟨-, hnil⟩ | hp
      · exact absurd hnil hne
      · rw [splitHost_append_portText hp] at hhost
        exact ⟨host, port, hp.isHost hhost, rfl⟩
    · cases h

instance (cs : List Char) : Decidable (IsHostWithPort cs) :=
  decidable_of_iff _ isHostWithPort_iff_readsAsItself.symm

example : IsHostWithPort "[::1]:8".toList := by decide +kernel

-- An address in another form than the printed one comes back printed.
example : ¬ IsHostWithPort "[::0:1]:8".toList := by decide +kernel

end Uri

end ConnectionConfig
