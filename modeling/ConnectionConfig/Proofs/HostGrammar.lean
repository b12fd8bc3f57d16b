import Mathlib.Data.List.Infix
import ConnectionConfig.Proofs.ServerAddress
import ConnectionConfig.Proofs.Uri.Ipv6

/-!
# Hosts that URIs and addresses have in common

The host of a URI and a server address are read by two grammars. Both take a name or an IPv6 address
in square brackets, with a port or without one. Addresses also take an IPv6 address without
brackets, and URIs take a colon without a port after it.
-/

namespace ConnectionConfig

namespace Decimal

/-- The text of a port: one digit or more, of a number below 65536. -/
structure IsPort (cs : List Char) : Prop where
  ne_nil : cs ≠ []
  isDigit : ∀ c ∈ cs, c.isDigit = true
  le : Nat.ofDigitChars 10 cs 0 ≤ 65535

private theorem readUInt16?_eq_of_head? {cs : List Char} (h : cs.head? ≠ some '+') :
    readUInt16? cs =
      (readNat? cs).bind fun n ↦ if n ≤ 65535 then some (UInt16.ofNat n) else none := by
  rw [readUInt16?]
  rintro rest rfl
  exact h rfl

/-- Without a plus sign the texts of ports are read, and no others. -/
theorem isSome_readUInt16?_iff {cs : List Char} (h : cs.head? ≠ some '+') :
    (readUInt16? cs).isSome = true ↔ IsPort cs := by
  rw [readUInt16?_eq_of_head? h, readNat?]
  constructor
  · intro hs
    split at hs
    · next hcs =>
      rw [Bool.and_eq_true, Bool.not_eq_true', List.isEmpty_eq_false_iff, List.all_eq_true] at hcs
      refine ⟨hcs.1, hcs.2, ?_⟩
      by_contra hle
      simp [hle] at hs
    · cases hs
  · intro hp
    have hcs : (!cs.isEmpty && cs.all Char.isDigit) = true := by
      rw [Bool.and_eq_true, Bool.not_eq_true', List.isEmpty_eq_false_iff, List.all_eq_true]
      exact ⟨hp.ne_nil, hp.isDigit⟩
    simp [hcs, hp.le]

/-- The text of a port starts with a digit. -/
theorem IsPort.head?_ne {cs : List Char} (h : IsPort cs) {c : Char} (hc : c.isDigit = false) :
    cs.head? ≠ some c := by
  intro hhead
  have hd := h.isDigit c (List.mem_of_head? hhead)
  rw [hc] at hd
  cases hd

end Decimal

namespace Uri

open Decimal (IsPort)

/-- The text of a port is read after a colon. -/
theorem exists_readPort_of_isPort {port : List Char} (h : IsPort port) :
    ∃ n, readPort (':' :: port) = .ok (some n, []) := by
  have hne : port.isEmpty = false := by simpa using h.ne_nil
  have hle : ¬ 65535 < Nat.ofDigitChars 10 port 0 := by simpa using h.le
  rw [readPort, List.takeWhile_eq_self_iff.mpr h.isDigit, List.dropWhile_eq_nil_iff.mpr h.isDigit]
  simp [hne, hle]

/-- Without a backslash only the text of a port is read after a colon, or nothing. -/
theorem of_readPort {cs rest : List Char} {port : Option UInt16}
    (h : readPort (':' :: cs) = .ok (port, rest)) (hslash : '\\' ∉ cs) :
    rest = [] ∧ (cs = [] ∨ IsPort cs) := by
  have hslash' : (cs.dropWhile Char.isDigit).head? ≠ some '\\' := fun hhead ↦
    hslash ((List.dropWhile_suffix _).subset (List.mem_of_head? hhead))
  rw [readPort] at h
  split at h
  · cases h
  · next hbound =>
    simp only [hslash', decide_false, Bool.or_false, Bool.or_eq_true, decide_eq_true_eq,
      Bool.not_eq_true', not_or, Nat.not_lt, Bool.not_eq_false, List.isEmpty_iff] at hbound
    obtain ⟨hle, hafter⟩ := hbound
    have hdigits := List.dropWhile_eq_nil_iff.mp hafter
    rw [List.takeWhile_eq_self_iff.mpr hdigits] at hle
    cases h
    refine ⟨hafter, ?_⟩
    by_cases hne : cs = []
    · exact .inl hne
    · exact .inr ⟨hne, hdigits, hle⟩

/-- A text that is read as a host: a name in which nothing is refused, or an IPv6 address in square
brackets. -/
inductive IsHostText : List Char → Prop
  | name {name : List Char} (hne : name ≠ []) (h : ∀ c ∈ name, isForbiddenInHost c = false) :
    IsHostText name
  | address {body : List Char} {groups : List Nat} (h : Ipv6.read? body = some groups) :
    IsHostText ('[' :: body ++ [']'])

/-- Such a text is read, as a host that is not empty. -/
theorem IsHostText.exists_readHost {cs : List Char} (h : IsHostText cs) :
    ∃ host, readHost cs = .ok host ∧ host ≠ [] := by
  cases h with
  | name hne h => exact ⟨_, readHost_name h, Percent.encode_ne_nil _ hne⟩
  | address h => exact ⟨_, readHost_brackets h, List.cons_ne_nil _ _⟩

/-- No other text is read as a host that is not empty. -/
theorem isHostText_of_readHost {cs host : List Char} (h : readHost cs = .ok host)
    (hne : host ≠ []) : IsHostText cs := by
  rcases of_readHost h with ⟨body, groups, rfl, hread, -⟩ | ⟨hcs, rfl⟩
  · exact .address hread
  · refine .name ?_ hcs
    rintro rfl
    exact hne rfl

/-- Such a text is found again in front of a colon. -/
theorem IsHostText.splitHost_append {host rest : List Char} (h : IsHostText host)
    (hr : ∀ c ∈ rest.head?, c = ':') : splitHost false (host ++ rest) = (host, rest) := by
  cases h with
  | name _ h => exact splitHost_name_append h hr
  | address h => exact splitHost_brackets_append (Ipv6.ne_bracket_of_read? h) hr

/-! ## What both grammars take -/

/-- A host in either grammar, with a port or without one. -/
inductive IsSharedHost : List Char → Prop
  | host {host : List Char} (h : IsHostText host) : IsSharedHost host
  | port {host port : List Char} (h : IsHostText host) (hp : IsPort port) :
    IsSharedHost (host ++ ':' :: port)

private theorem head?_splitHost (bracketed : Bool) (cs : List Char) :
    ∀ c ∈ (splitHost bracketed cs).2.head?, c = ':' := by
  induction cs generalizing bracketed with
  | nil => simp [splitHost]
  | cons c cs ih =>
    rw [splitHost]
    split
    · next hc =>
      intro d hd
      cases hd
      exact of_decide_eq_true (Bool.and_eq_true_iff.mp hc).1
    · exact ih _

/-- Host and port are read from a shared text, and nothing is left. -/
theorem IsSharedHost.exists_readHostAndPort {cs : List Char} (h : IsSharedHost cs) :
    ∃ host port, readHostAndPort cs = .ok (host, port, []) := by
  cases h with
  | host h =>
    obtain ⟨host, hread, hne⟩ := h.exists_readHost
    have hsplit : splitHost false (cs ++ []) = (cs, []) := h.splitHost_append (by simp)
    rw [List.append_nil] at hsplit
    refine ⟨host, none, ?_⟩
    rw [readHostAndPort, hsplit]
    simp [hread, readPort, Except.map]
  | port h hp =>
    obtain ⟨host, hread, hne⟩ := h.exists_readHost
    obtain ⟨n, hport⟩ := exists_readPort_of_isPort hp
    refine ⟨host, some n, ?_⟩
    rw [readHostAndPort, h.splitHost_append (by simp)]
    simp [hread, hne, hport, Except.map]

/-- A text without a backslash from which host and port are read is shared, unless it ends in a
colon. -/
theorem isSharedHost_of_readHostAndPort {cs host rest : List Char} {port : Option UInt16}
    (h : readHostAndPort cs = .ok (host, port, rest)) (hne : cs ≠ []) (hslash : '\\' ∉ cs)
    (hend : cs.getLast? ≠ some ':') : IsSharedHost cs := by
  obtain ⟨hhost, -, hport⟩ := readHost_of_readHostAndPort h
  have hhost_ne : host ≠ [] := by
    rintro rfl
    exact hne (eq_nil_of_readHostAndPort h).1
  have htext := isHostText_of_readHost hhost hhost_ne
  have hcs := splitHost_append false cs
  cases hafter : (splitHost false cs).2 with
  | nil =>
    rw [hafter, List.append_nil] at hcs
    exact hcs ▸ .host htext
  | cons c after =>
    have hc : c = ':' := head?_splitHost false cs c (by rw [hafter]; rfl)
    rw [hafter, hc] at hcs hport
    have hslash' : '\\' ∉ after := fun hm ↦ hslash (hcs ▸ by simp [hm])
    rcases (of_readPort hport hslash').2 with rfl | hp
    · exact absurd (by rw [← hcs]; simp) hend
    · exact hcs ▸ .port htext hp

/-- A shared text does not end in a colon. -/
theorem IsSharedHost.getLast?_ne {cs : List Char} (h : IsSharedHost cs) :
    cs.getLast? ≠ some ':' := by
  intro hlast
  cases h with
  | host h =>
    cases h with
    | name _ h => exact absurd (h ':' (List.mem_of_getLast? hlast)) (by decide)
    | address h =>
      rw [List.getLast?_concat] at hlast
      cases hlast
  | @port host port h hp =>
    rw [List.getLast?_append_of_ne_nil _ (List.cons_ne_nil _ _),
      List.getLast?_cons_of_ne_nil hp.ne_nil] at hlast
    exact absurd (hp.isDigit ':' (List.mem_of_getLast? hlast)) (by decide)

end Uri

namespace ServerAddress

open Decimal (IsPort)
open Uri (IsHostText IsSharedHost isForbiddenInHost)

/-- Two colons or more without a square bracket in front: an address takes this for an IPv6 address
without brackets. -/
def IsBare (cs : List Char) : Prop := cs.head? ≠ some '[' ∧ 2 ≤ cs.count ':'

instance (cs : List Char) : Decidable (IsBare cs) := inferInstanceAs (Decidable (_ ∧ _))

/-- The text in square brackets at the start of an address. -/
def bracketed? : List Char → Option (List Char)
  | '[' :: rest => (Text.cutFirst? ']' rest).map Prod.fst
  | _ => none

/-- A text that keeps to what an address is meant to be: outside square brackets nothing is refused
in the host, in square brackets there is an IPv6 address, and the port has no plus sign. -/
structure IsRegular (cs : List Char) : Prop where
  name : cs.head? ≠ some '[' → ∀ c ∈ cs, isForbiddenInHost c = true → c = ':'
  address : ∀ body ∈ bracketed? cs, (Ipv6.read? body).isSome = true
  port : ¬ [':', '+'] <:+: cs

instance (cs : List Char) : Decidable (IsRegular cs) :=
  decidable_of_iff ((cs.head? ≠ some '[' →
      cs.all (fun c ↦ !isForbiddenInHost c || c = ':') = true) ∧
    (bracketed? cs).all (fun body ↦ (Ipv6.read? body).isSome) = true ∧ ¬ [':', '+'] <:+: cs)
    ⟨fun h ↦ ⟨fun hb c hc hf ↦ by simpa [hf] using List.all_eq_true.mp (h.1 hb) c hc,
        by simpa [Option.all_eq_true] using h.2.1, h.2.2⟩,
      fun h ↦ ⟨fun hb ↦ List.all_eq_true.mpr fun c hc ↦ by
        cases hf : isForbiddenInHost c with
        | true => simpa using h.name hb c hc hf
        | false => rfl, by simpa [Option.all_eq_true] using h.address, h.port⟩⟩

private theorem isSome_ofHost?_iff {host : List Char} {port : UInt16} :
    (ofHost? host port).isSome = true ↔ host ≠ [] := by
  rw [ofHost?]
  cases host with
  | nil => simp
  | cons c host => simp

private theorem isSome_ofHostAndPort?_iff {host port : List Char} :
    (ofHostAndPort? host port).isSome = true ↔
      host ≠ [] ∧ (Decimal.readUInt16? port).isSome = true := by
  rw [ofHostAndPort?]
  cases Decimal.readUInt16? port with
  | none => simp
  | some n => simp [isSome_ofHost?_iff]

/-- A text with two colons or more and no square bracket in front is a host as it stands. -/
theorem parse?_of_isBare {cs : List Char} (h : IsBare cs) :
    parse? (String.ofList cs) = ofHost? cs defaultPort := by
  obtain ⟨hb, hcount⟩ := h
  rw [parse?_of_head?_ne hb]
  split
  · next host port hcut =>
    obtain ⟨rfl, hc⟩ := Text.eq_append_of_cutFirst? hcut
    have hport : ':' ∈ port := by
      rw [List.count_append, List.count_eq_zero_of_not_mem hc, List.count_cons_self] at hcount
      exact List.count_pos_iff.mp (by omega)
    exact if_pos (by simpa using hport)
  · rfl

/-- A text with two colons or more is not empty. -/
theorem IsBare.ne_nil {cs : List Char} (h : IsBare cs) : cs ≠ [] := by
  rintro rfl
  exact absurd h.2 (by simp)

/-- A text with two colons or more and no square bracket in front is an address. -/
theorem isSome_parse?_of_isBare {cs : List Char} (h : IsBare cs) :
    (parse? (String.ofList cs)).isSome = true := by
  rw [parse?_of_isBare h]
  exact isSome_ofHost?_iff.mpr h.ne_nil

private theorem head?_ne_and_colon_not_mem {name : List Char}
    (h : ∀ c ∈ name, isForbiddenInHost c = false) : name.head? ≠ some '[' ∧ ':' ∉ name :=
  ⟨fun hm ↦ absurd (h _ (List.mem_of_head? hm)) (by decide), fun hm ↦ absurd (h _ hm) (by decide)⟩

private theorem ne_nil_and_close_not_mem {body : List Char} {groups : List Nat}
    (h : Ipv6.read? body = some groups) : body ≠ [] ∧ ']' ∉ body := by
  refine ⟨?_, fun hm ↦ (Ipv6.ne_bracket_of_read? h _ hm).2 rfl⟩
  rintro rfl
  cases h

/-- A shared text is an address. -/
theorem isSome_parse?_of_isSharedHost {cs : List Char} (h : IsSharedHost cs) :
    (parse? (String.ofList cs)).isSome = true := by
  cases h with
  | host h =>
    cases h with
    | name hne h =>
      obtain ⟨hb, hc⟩ := head?_ne_and_colon_not_mem h
      rw [parse?_host hb hc]
      exact isSome_ofHost?_iff.mpr hne
    | address h =>
      obtain ⟨hne, hc⟩ := ne_nil_and_close_not_mem h
      rw [parse?_brackets_host hc]
      exact isSome_ofHost?_iff.mpr hne
  | @port host port h hp =>
    have hport : (Decimal.readUInt16? port).isSome = true :=
      (Decimal.isSome_readUInt16?_iff (hp.head?_ne (by decide))).mpr hp
    have hcolon : ':' ∉ port := fun hm ↦ absurd (hp.isDigit _ hm) (by decide)
    cases h with
    | name hne h =>
      obtain ⟨hb, hc⟩ := head?_ne_and_colon_not_mem h
      rw [parse?_host_port (by rwa [List.head?_append_of_ne_nil _ hne]) hc hcolon]
      exact isSome_ofHostAndPort?_iff.mpr ⟨hne, hport⟩
    | address h =>
      obtain ⟨hne, hc⟩ := ne_nil_and_close_not_mem h
      rw [parse?_brackets_port _ hc]
      exact isSome_ofHostAndPort?_iff.mpr ⟨hne, hport⟩

private theorem IsRegular.isPort {before port : List Char} (h : IsRegular (before ++ ':' :: port))
    (hp : (Decimal.readUInt16? port).isSome = true) : IsPort port := by
  -- Only a plus sign in front of the port would tell the two grammars apart.
  refine (Decimal.isSome_readUInt16?_iff fun hplus ↦ ?_).mp hp
  obtain ⟨rest, rfl⟩ := List.head?_eq_some_iff.mp hplus
  exact h.port ⟨before, rest, by simp⟩

private theorem isSharedHost_of_bracket {rest : List Char}
    (h : (parse? (String.ofList ('[' :: rest))).isSome = true) (hr : IsRegular ('[' :: rest)) :
    IsSharedHost ('[' :: rest) := by
  rw [parse?_bracket_cons] at h
  cases hcut : Text.cutFirst? ']' rest with
  | none => simp [hcut] at h
  | some parts =>
    obtain ⟨body, after⟩ := parts
    obtain ⟨groups, hread⟩ := Option.isSome_iff_exists.mp
      (hr.address body (by rw [bracketed?, hcut]; rfl))
    simp only [hcut] at h
    obtain ⟨rfl, -⟩ := Text.eq_append_of_cutFirst? hcut
    split at h
    · next heq =>
      cases heq
      exact .host (.address hread)
    · next port heq =>
      cases heq
      have htext : '[' :: (body ++ ']' :: ':' :: port) =
          ('[' :: body ++ [']']) ++ ':' :: port := by simp
      rw [htext] at hr ⊢
      exact .port (.address hread) (hr.isPort (isSome_ofHostAndPort?_iff.mp h).2)
    · cases h

/-- A regular text that is an address is shared, unless it is an IPv6 address without brackets. -/
theorem isBare_or_isSharedHost {cs : List Char} (h : (parse? (String.ofList cs)).isSome = true)
    (hr : IsRegular cs) : IsBare cs ∨ IsSharedHost cs := by
  by_cases hb : cs.head? = some '['
  · obtain ⟨rest, rfl⟩ := List.head?_eq_some_iff.mp hb
    exact .inr (isSharedHost_of_bracket h hr)
  -- In a host before the first colon a regular text has nothing that a URI refuses.
  have hname : ∀ name : List Char, (∀ c ∈ name, c ∈ cs) → ':' ∉ name →
      ∀ c ∈ name, isForbiddenInHost c = false := by
    intro name hsub hc c hm
    by_contra hf
    exact hc (hr.name hb c (hsub c hm) (by simpa using hf) ▸ hm)
  rw [parse?_of_head?_ne hb] at h
  split at h
  · next host port hcut =>
    obtain ⟨rfl, hc⟩ := Text.eq_append_of_cutFirst? hcut
    split at h
    · next hport =>
      have hpos := List.count_pos_iff.mpr (List.contains_iff_mem.mp hport)
      refine .inl ⟨hb, ?_⟩
      rw [List.count_append, List.count_cons_self]
      omega
    · obtain ⟨hne, hport⟩ := isSome_ofHostAndPort?_iff.mp h
      exact .inr (.port (.name hne (hname host (fun c hm ↦ List.mem_append_left _ hm) hc))
        (hr.isPort hport))
  · next hcut =>
    exact .inr (.host (.name (isSome_ofHost?_iff.mp h)
      (hname cs (fun c hm ↦ hm) (Text.cutFirst?_eq_none_iff.mp hcut))))

end ServerAddress

end ConnectionConfig
