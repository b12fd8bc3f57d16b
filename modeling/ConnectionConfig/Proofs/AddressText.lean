import ConnectionConfig.Proofs.HostGrammar
import ConnectionConfig.Proofs.Text.Numerals

/-!
# The text form of an address

An address is written so that it reads back: a host with colons is put in square brackets, and the
port is always there. The texts that are read have five forms, and in none of them is a host looked
at for square brackets of its own. So there are hosts that are read, but not told from the brackets
and the port when they are written.
-/

namespace ConnectionConfig

/-- The text of a port holds digits, and a plus sign. -/
theorem Decimal.isDigit_or_plus_of_readUInt16? {cs : List Char} {n : UInt16}
    (h : readUInt16? cs = some n) : ∀ c ∈ cs, c.isDigit = true ∨ c = '+' := by
  have hdigits : ∀ digits k, readNat? digits = some k → ∀ c ∈ digits, c.isDigit = true :=
    fun _ _ hk ↦ (readNat?_eq_some_iff.mp hk).2.1
  rw [readUInt16?.eq_def] at h
  obtain ⟨k, hk, -⟩ := Option.bind_eq_some_iff.mp h
  intro c hc
  split at hk
  · rcases List.mem_cons.mp hc with rfl | hc
    · exact .inr rfl
    · exact .inl (hdigits _ k hk c hc)
  · exact .inl (hdigits _ k hk c hc)

namespace ServerAddress

open Uri (portText)

/-- The texts that stand for an address: a host without colons, one with two colons or more, and a
host in square brackets, where a port may follow the first and the last. -/
inductive IsTextOf : List Char → ServerAddress → Prop
  | host {host : List Char} (hne : host ≠ []) (hopen : host.head? ≠ some '[')
    (hcolon : ':' ∉ host) : IsTextOf host ⟨String.ofList host, defaultPort⟩
  | hostAndPort {host port : List Char} {n : UInt16} (hne : host ≠ [])
    (hopen : host.head? ≠ some '[') (hcolon : ':' ∉ host)
    (hport : Decimal.readUInt16? port = some n) :
    IsTextOf (host ++ ':' :: port) ⟨String.ofList host, n⟩
  | bare {host : List Char} (h : IsBare host) : IsTextOf host ⟨String.ofList host, defaultPort⟩
  | brackets {host : List Char} (hne : host ≠ []) (hclose : ']' ∉ host) :
    IsTextOf ('[' :: host ++ [']']) ⟨String.ofList host, defaultPort⟩
  | bracketsAndPort {host port : List Char} {n : UInt16} (hne : host ≠ []) (hclose : ']' ∉ host)
    (hport : Decimal.readUInt16? port = some n) :
    IsTextOf ('[' :: host ++ [']'] ++ ':' :: port) ⟨String.ofList host, n⟩

private theorem ofHost?_eq_some_iff {host : List Char} {port : UInt16} {a : ServerAddress} :
    ofHost? host port = some a ↔ host ≠ [] ∧ a = ⟨String.ofList host, port⟩ := by
  rw [ofHost?]
  cases host with
  | nil => simp
  | cons c host => simp [eq_comm]

private theorem ofHostAndPort?_eq_some_iff {host port : List Char} {a : ServerAddress} :
    ofHostAndPort? host port = some a ↔
      host ≠ [] ∧ ∃ n, Decimal.readUInt16? port = some n ∧ a = ⟨String.ofList host, n⟩ := by
  rw [ofHostAndPort?, Option.bind_eq_some_iff]
  simp only [ofHost?_eq_some_iff]
  constructor
  · rintro ⟨n, hn, hne, rfl⟩
    exact ⟨hne, n, hn, rfl⟩
  · rintro ⟨hne, n, hn, rfl⟩
    exact ⟨n, hn, hne, rfl⟩

private theorem isTextOf_of_bracket {rest : List Char} {a : ServerAddress}
    (h : parse? (String.ofList ('[' :: rest)) = some a) : IsTextOf ('[' :: rest) a := by
  rw [parse?_bracket_cons] at h
  split at h
  · next host hcut =>
    obtain ⟨rfl, hclose⟩ := Text.eq_append_of_cutFirst? hcut
    obtain ⟨hne, rfl⟩ := ofHost?_eq_some_iff.mp h
    exact .brackets hne hclose
  · next host port hcut =>
    obtain ⟨rfl, hclose⟩ := Text.eq_append_of_cutFirst? hcut
    obtain ⟨hne, n, hport, rfl⟩ := ofHostAndPort?_eq_some_iff.mp h
    simpa using IsTextOf.bracketsAndPort hne hclose hport
  · cases h

/-- A text stands for an address just when it has one of the five forms. -/
theorem parse?_eq_some_iff {cs : List Char} {a : ServerAddress} :
    parse? (String.ofList cs) = some a ↔ IsTextOf cs a := by
  constructor
  · intro h
    by_cases hopen : cs.head? = some '['
    · obtain ⟨rest, rfl⟩ := List.head?_eq_some_iff.mp hopen
      exact isTextOf_of_bracket h
    rw [parse?_of_head?_ne hopen] at h
    split at h
    · next host port hcut =>
      obtain ⟨rfl, hcolon⟩ := Text.eq_append_of_cutFirst? hcut
      split at h
      · next hmore =>
        obtain ⟨-, rfl⟩ := ofHost?_eq_some_iff.mp h
        have hpos := List.count_pos_iff.mpr (List.contains_iff_mem.mp hmore)
        refine .bare ⟨hopen, ?_⟩
        rw [List.count_append, List.count_cons_self]
        omega
      · obtain ⟨hne, n, hport, rfl⟩ := ofHostAndPort?_eq_some_iff.mp h
        rw [List.head?_append_of_ne_nil _ hne] at hopen
        exact .hostAndPort hne hopen hcolon hport
    · next hcut =>
      obtain ⟨hne, rfl⟩ := ofHost?_eq_some_iff.mp h
      exact .host hne hopen (Text.cutFirst?_eq_none_iff.mp hcut)
  · intro h
    cases h with
    | host hne hopen hcolon =>
      rw [parse?_host hopen hcolon]
      exact ofHost?_eq_some_iff.mpr ⟨hne, rfl⟩
    | @hostAndPort host port n hne hopen hcolon hport =>
      have hdigits : ':' ∉ port := fun hm ↦
        absurd (Decimal.isDigit_or_plus_of_readUInt16? hport _ hm) (by decide)
      rw [parse?_host_port (by rwa [List.head?_append_of_ne_nil _ hne]) hcolon hdigits]
      exact ofHostAndPort?_eq_some_iff.mpr ⟨hne, n, hport, rfl⟩
    | bare h =>
      rw [parse?_of_isBare h]
      exact ofHost?_eq_some_iff.mpr ⟨h.ne_nil, rfl⟩
    | brackets hne hclose =>
      rw [parse?_brackets_host hclose]
      exact ofHost?_eq_some_iff.mpr ⟨hne, rfl⟩
    | bracketsAndPort hne hclose hport =>
      rw [parse?_brackets_port _ hclose]
      exact ofHostAndPort?_eq_some_iff.mpr ⟨hne, _, hport, rfl⟩

/-- A host is told from the brackets and the port that are written around it: with colons, and so in
brackets, it holds no closing bracket, and without colons it does not start with an opening one. -/
def StandsApart (host : List Char) : Prop :=
  if ':' ∈ host then ']' ∉ host else host.head? ≠ some '['

instance (host : List Char) : Decidable (StandsApart host) :=
  inferInstanceAs (Decidable (if ':' ∈ host then ']' ∉ host else host.head? ≠ some '['))

/-- A host with colons is written in brackets, and the port always stands after the host. -/
theorem toList_render (a : ServerAddress) :
    a.render.toList =
      (if ':' ∈ a.host.toList then '[' :: a.host.toList ++ [']'] else a.host.toList) ++
        portText (some a.port) := by
  rw [render]
  simp only [List.contains_iff_mem]
  split <;> simp [portText]

private theorem parse?_render (a : ServerAddress) :
    parse? a.render =
      parse? (String.ofList
        ((if ':' ∈ a.host.toList then '[' :: a.host.toList ++ [']'] else a.host.toList) ++
          portText (some a.port))) := by
  rw [← toList_render, String.ofList_toList]

private theorem close_not_mem_portText (port : UInt16) : ']' ∉ portText (some port) := by
  intro hm
  rcases List.mem_cons.mp hm with hc | hd
  · cases hc
  · exact absurd (Uri.isDigit_of_mem_ofUInt16 _ hd) (by decide)

/-- An address whose host stands apart reads back. -/
theorem parse?_render_of_standsApart {a : ServerAddress} (hne : a.host.toList ≠ [])
    (h : StandsApart a.host.toList) : parse? a.render = some a := by
  rw [parse?_render]
  rw [StandsApart] at h
  split at h
  · next hcolon =>
    rw [if_pos hcolon, parse?_brackets hne h, String.ofList_toList]
    rfl
  · next hcolon =>
    rw [if_neg hcolon, parse?_eq_some_iff, portText]
    have htext := IsTextOf.hostAndPort hne h hcolon (Decimal.readUInt16?_ofUInt16 a.port)
    rwa [String.ofList_toList] at htext

/-- A host with a colon and a closing bracket is cut at that bracket, and no port follows there. -/
theorem parse?_render_of_close_mem {a : ServerAddress} (hcolon : ':' ∈ a.host.toList)
    (hclose : ']' ∈ a.host.toList) : parse? a.render = none := by
  obtain ⟨before, after, hhost, hbefore⟩ := List.eq_append_cons_of_mem hclose
  have htext : '[' :: a.host.toList ++ [']'] ++ portText (some a.port) =
      '[' :: (before ++ ']' :: (after ++ ']' :: portText (some a.port))) := by
    simp [hhost]
  rw [parse?_render, if_pos hcolon, htext, parse?_bracket_cons,
    Text.cutFirst?_append_cons _ hbefore]
  cases after with
  | nil => rfl
  | cons c after =>
    by_cases hc : c = ':'
    · subst hc
      have hport : Decimal.readUInt16? (after ++ ']' :: portText (some a.port)) = none := by
        rw [Option.eq_none_iff_forall_ne_some]
        intro n hn
        exact absurd (Decimal.isDigit_or_plus_of_readUInt16? hn ']' (by simp)) (by decide)
      exact congrArg (Option.bind · _) hport
    · split
      · next heq => cases heq
      · next heq =>
        cases heq
        exact absurd rfl hc
      · rfl

/-- A host without colons that starts with an opening bracket is taken for one in brackets, and the
closing one is missing. -/
theorem parse?_render_of_open {a : ServerAddress} (hcolon : ':' ∉ a.host.toList)
    (hopen : a.host.toList.head? = some '[') (hclose : ']' ∉ a.host.toList) :
    parse? a.render = none := by
  obtain ⟨rest, hhost⟩ := List.head?_eq_some_iff.mp hopen
  have hrest : ']' ∉ rest ++ portText (some a.port) := by
    rw [hhost] at hclose
    intro hm
    rcases List.mem_append.mp hm with hr | hp
    · exact hclose (List.mem_cons_of_mem _ hr)
    · exact close_not_mem_portText a.port hp
  rw [parse?_render, if_neg hcolon, hhost, List.cons_append, parse?_bracket_cons,
    Text.cutFirst?_eq_none_iff.mpr hrest]

/-- A host that was read is not empty. -/
theorem IsTextOf.host_ne_nil {cs : List Char} {a : ServerAddress} (h : IsTextOf cs a) :
    a.host.toList ≠ [] := by
  cases h with
  | host hne | hostAndPort hne | brackets hne | bracketsAndPort hne =>
    rwa [String.toList_ofList]
  | bare h =>
    rw [String.toList_ofList]
    exact h.ne_nil

/-- A host that was read holds no closing bracket if it starts with an opening one. -/
theorem IsTextOf.close_not_mem {cs : List Char} {a : ServerAddress} (h : IsTextOf cs a)
    (hstart : a.host.toList.head? = some '[') : ']' ∉ a.host.toList := by
  cases h with
  | host hne hopen | hostAndPort hne hopen =>
    rw [String.toList_ofList] at hstart
    exact absurd hstart hopen
  | bare h =>
    rw [String.toList_ofList] at hstart
    exact absurd hstart h.1
  | brackets hne hclose | bracketsAndPort hne hclose => rwa [String.toList_ofList]

private theorem bracketed?_of_head?_ne {cs : List Char} (h : cs.head? ≠ some '[') :
    bracketed? cs = none := by
  rw [bracketed?]
  rintro rest rfl
  exact h rfl

private theorem bracketed?_brackets {host : List Char} (hclose : ']' ∉ host) (rest : List Char) :
    bracketed? ('[' :: (host ++ ']' :: rest)) = some host := by
  rw [bracketed?, Text.cutFirst?_append_cons _ hclose]
  rfl

private theorem not_standsApart_brackets_iff {host : List Char} (hclose : ']' ∉ host)
    (rest : List Char) :
    ¬ StandsApart host ↔
      IsBare ('[' :: (host ++ ']' :: rest)) ∧ ']' ∈ '[' :: (host ++ ']' :: rest) ∨
        ∃ body ∈ bracketed? ('[' :: (host ++ ']' :: rest)),
          body.head? = some '[' ∧ ':' ∉ body := by
  have hbare : ¬ IsBare ('[' :: (host ++ ']' :: rest)) := fun hb ↦ hb.1 rfl
  rw [bracketed?_brackets hclose, StandsApart]
  split
  · next hcolon => simp [hbare, hclose, hcolon]
  · next hcolon => simp [hbare, hcolon]

/-- Two kinds of texts are read with a host that does not stand apart: a text of two colons or more
with a closing bracket in it, and a host in brackets that has no colon and starts with a bracket. -/
theorem IsTextOf.not_standsApart_iff {cs : List Char} {a : ServerAddress} (h : IsTextOf cs a) :
    ¬ StandsApart a.host.toList ↔
      IsBare cs ∧ ']' ∈ cs ∨ ∃ body ∈ bracketed? cs, body.head? = some '[' ∧ ':' ∉ body := by
  cases h with
  | host hne hopen hcolon =>
    have hbare : ¬ IsBare cs := fun hb ↦ by
      have hcount := hb.2
      rw [List.count_eq_zero_of_not_mem hcolon] at hcount
      omega
    rw [String.toList_ofList, StandsApart, if_neg hcolon, bracketed?_of_head?_ne hopen]
    simp [hopen, hbare]
  | @hostAndPort host port n hne hopen hcolon hport =>
    have hdigits : ':' ∉ port := fun hm ↦
      absurd (Decimal.isDigit_or_plus_of_readUInt16? hport _ hm) (by decide)
    have hbare : ¬ IsBare (host ++ ':' :: port) := fun hb ↦ by
      have hcount := hb.2
      rw [List.count_append, List.count_eq_zero_of_not_mem hcolon, List.count_cons_self,
        List.count_eq_zero_of_not_mem hdigits] at hcount
      omega
    have hopen' : (host ++ ':' :: port).head? ≠ some '[' := by
      rwa [List.head?_append_of_ne_nil _ hne]
    rw [String.toList_ofList, StandsApart, if_neg hcolon, bracketed?_of_head?_ne hopen']
    simp [hopen, hbare]
  | bare h =>
    have hcolon : ':' ∈ cs := List.count_pos_iff.mp (by have hcount := h.2; omega)
    rw [String.toList_ofList, StandsApart, if_pos hcolon, bracketed?_of_head?_ne h.1]
    simp [h]
  | brackets hne hclose =>
    rw [String.toList_ofList]
    simpa using not_standsApart_brackets_iff hclose []
  | bracketsAndPort hne hclose hport =>
    rw [String.toList_ofList]
    simpa using not_standsApart_brackets_iff hclose _

/-- An address that was read from a text reads back from the text that it is written as, unless its
host does not stand apart from what is written around it: then that text is refused. -/
theorem parse_render_of_parse {text : String} {a : ServerAddress} (h : parse text = .ok a) :
    (parse a.render =
      if StandsApart a.host.toList then .ok a else .error (.invalidAddress a.render)) ∧
    (¬ StandsApart a.host.toList ↔
      IsBare text.toList ∧ ']' ∈ text.toList ∨
        ∃ body ∈ bracketed? text.toList, body.head? = some '[' ∧ ':' ∉ body) := by
  have htext : IsTextOf text.toList a := by
    rw [← parse?_eq_some_iff, String.ofList_toList]
    exact parse_eq_ok_iff.mp h
  refine ⟨?_, htext.not_standsApart_iff⟩
  split
  · next hapart => exact parse_eq_ok_iff.mpr (parse?_render_of_standsApart htext.host_ne_nil hapart)
  · next hapart =>
    refine parse_eq_error_iff.mpr ⟨?_, rfl⟩
    rw [StandsApart] at hapart
    split at hapart
    · next hcolon => exact parse?_render_of_close_mem hcolon (not_not.mp hapart)
    · next hcolon =>
      have hopen := not_not.mp hapart
      exact parse?_render_of_open hcolon hopen (htext.close_not_mem hopen)

/-- A host in brackets may start with a bracket if it has a colon, and a port may have a plus sign
and zeros in front. -/
theorem parse_render_of_bracket_in_brackets :
    parse "[[a:b]:+07" = .ok ⟨"[a:b", 7⟩ ∧ render ⟨"[a:b", 7⟩ = "[[a:b]:7" ∧
      parse "[[a:b]:7" = .ok ⟨"[a:b", 7⟩ := by
  have hread : parse "[[a:b]:+07" = .ok ⟨"[a:b", 7⟩ := by decide
  have hwritten : render ⟨"[a:b", 7⟩ = "[[a:b]:7" := by decide
  refine ⟨hread, hwritten, ?_⟩
  rw [← hwritten, (parse_render_of_parse hread).1]
  exact if_pos (by decide)

/-- A text of two colons and a closing bracket is an address, and so is a bracket in brackets, but
neither reads back. -/
theorem not_parse_render_of_brackets :
    parse "]::" = .ok ⟨"]::", 27017⟩ ∧ render ⟨"]::", 27017⟩ = "[]::]:27017" ∧
      parse "[]::]:27017" = .error (.invalidAddress "[]::]:27017") ∧
      parse "[[h]" = .ok ⟨"[h", 27017⟩ ∧ render ⟨"[h", 27017⟩ = "[h:27017" ∧
      parse "[h:27017" = .error (.invalidAddress "[h:27017") := by
  decide

end ServerAddress

end ConnectionConfig
