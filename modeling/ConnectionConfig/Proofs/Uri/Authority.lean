import Mathlib.Data.List.Basic
import ConnectionConfig.Proofs.Text.Cuts
import ConnectionConfig.Uri.Basic

/-!
# The authority of a URI

After two slashes a text has one reading as user information, hosts and the rest: the authority ends
at the first slash, question mark or number sign, and its last at sign ends the user information.
The parts are found again wherever they are put together.
-/

namespace ConnectionConfig.Uri

/-- The user information in front of a text, with an at sign after it. -/
def withUserInfo (userInfo : Option (List Char)) (text : List Char) : List Char :=
  match userInfo with
  | some u => u ++ '@' :: text
  | none => text

/-- The parts of a text after two slashes: nothing in the user information ends the authority,
nothing in the hosts ends it or the user information, and the rest is empty or starts with the end
of the authority. -/
structure IsAuthority (userInfo : Option (List Char)) (hosts rest : List Char) : Prop where
  userInfo : ∀ u ∈ userInfo, ∀ c ∈ u, endsAuthority c = false
  hosts : ∀ c ∈ hosts, c ≠ '@' ∧ endsAuthority c = false
  rest : ∀ c ∈ rest.head?, endsAuthority c = true

/-- The part after the user information can be extended. -/
theorem withUserInfo_append (userInfo : Option (List Char)) (a b : List Char) :
    withUserInfo userInfo (a ++ b) = withUserInfo userInfo a ++ b := by
  cases userInfo <;> simp [withUserInfo]

/-- A character of such a text is one of the user information, the at sign, or one of the text. -/
theorem mem_withUserInfo {userInfo : Option (List Char)} {text : List Char} {c : Char}
    (h : c ∈ withUserInfo userInfo text) :
    (∃ u ∈ userInfo, c ∈ u) ∨ c = '@' ∨ c ∈ text := by
  cases userInfo with
  | none => exact .inr (.inr h)
  | some u =>
    rcases List.mem_append.mp h with hu | hr
    · exact .inl ⟨u, rfl, hu⟩
    · rcases List.mem_cons.mp hr with rfl | ht
      · exact .inr (.inl rfl)
      · exact .inr (.inr ht)

/-- User information is found again in front of hosts without an at sign. -/
theorem splitUserInfo_withUserInfo (userInfo : Option (List Char)) {hosts : List Char}
    (h : '@' ∉ hosts) : splitUserInfo (withUserInfo userInfo hosts) = (userInfo, hosts) := by
  cases userInfo with
  | none => simp [withUserInfo, splitUserInfo, Text.cutLast?_eq_none_iff.mpr h]
  | some u => simp [withUserInfo, splitUserInfo, Text.cutLast?_append_cons u h]

/-- Splitting off the user information loses nothing, and leaves no at sign. -/
theorem withUserInfo_splitUserInfo (authority : List Char) :
    withUserInfo (splitUserInfo authority).1 (splitUserInfo authority).2 = authority ∧
      '@' ∉ (splitUserInfo authority).2 := by
  unfold splitUserInfo
  split
  · next u rest h =>
    obtain ⟨he, hm⟩ := Text.eq_append_of_cutLast? h
    exact ⟨he.symm, hm⟩
  · next h => exact ⟨rfl, Text.cutLast?_eq_none_iff.mp h⟩

/-- Every text after two slashes has such parts. -/
theorem exists_isAuthority (cs : List Char) :
    ∃ userInfo hosts rest, IsAuthority userInfo hosts rest ∧
      cs = withUserInfo userInfo (hosts ++ rest) := by
  let authority := cs.takeWhile fun c ↦ !endsAuthority c
  obtain ⟨he, hm⟩ := withUserInfo_splitUserInfo authority
  have hends : ∀ c ∈ authority, endsAuthority c = false := fun c hc ↦ by
    simpa using Text.of_mem_takeWhile hc
  refine ⟨(splitUserInfo authority).1, (splitUserInfo authority).2,
    cs.dropWhile fun c ↦ !endsAuthority c, ⟨?_, ?_, ?_⟩, ?_⟩
  · intro u hu c hc
    apply hends
    rw [← he, show (splitUserInfo authority).1 = some u from hu]
    exact List.mem_append_left _ hc
  · intro c hc
    refine ⟨fun e ↦ hm (e ▸ hc), hends c ?_⟩
    rw [← he]
    cases (splitUserInfo authority).1 with
    | none => exact hc
    | some u => exact List.mem_append_right _ (List.mem_cons_of_mem _ hc)
  · intro c hc
    simpa using Text.of_mem_head?_dropWhile hc
  · rw [withUserInfo_append, he, List.takeWhile_append_dropWhile]

namespace IsAuthority

variable {userInfo : Option (List Char)} {hosts rest : List Char}

private theorem not_ends (h : IsAuthority userInfo hosts rest) :
    ∀ c ∈ withUserInfo userInfo hosts, (!endsAuthority c) = true := by
  intro c hc
  rw [Bool.not_eq_true']
  rcases mem_withUserInfo hc with ⟨u, hu, hm⟩ | rfl | hh
  · exact h.userInfo u hu c hm
  · rfl
  · exact (h.hosts c hh).2

/-- The authority is found again. -/
theorem takeWhile_eq (h : IsAuthority userInfo hosts rest) :
    (withUserInfo userInfo (hosts ++ rest)).takeWhile (fun c ↦ !endsAuthority c) =
      withUserInfo userInfo hosts := by
  rw [withUserInfo_append]
  exact Text.takeWhile_append_of_head h.not_ends fun c hc ↦ by simp [h.rest c hc]

/-- What follows the authority is found again. -/
theorem dropWhile_eq (h : IsAuthority userInfo hosts rest) :
    (withUserInfo userInfo (hosts ++ rest)).dropWhile (fun c ↦ !endsAuthority c) = rest := by
  rw [withUserInfo_append]
  exact Text.dropWhile_append_of_head h.not_ends fun c hc ↦ by simp [h.rest c hc]

/-- User information and hosts are found again. -/
theorem splitUserInfo_eq (h : IsAuthority userInfo hosts rest) :
    splitUserInfo (withUserInfo userInfo hosts) = (userInfo, hosts) :=
  splitUserInfo_withUserInfo userInfo fun hm ↦ (h.hosts _ hm).1 rfl

/-- Reading goes by the parts. -/
theorem readAuthority_eq (h : IsAuthority userInfo hosts rest) :
    readAuthority (withUserInfo userInfo (hosts ++ rest)) = ofAuthority userInfo hosts rest := by
  rw [readAuthority, h.takeWhile_eq, h.dropWhile_eq, h.splitUserInfo_eq]

/-- A text has no other parts. -/
theorem unique {userInfo' : Option (List Char)} {hosts' rest' : List Char}
    (h : IsAuthority userInfo hosts rest) (h' : IsAuthority userInfo' hosts' rest')
    (he : withUserInfo userInfo (hosts ++ rest) = withUserInfo userInfo' (hosts' ++ rest')) :
    userInfo = userInfo' ∧ hosts = hosts' ∧ rest = rest' := by
  have hauthority := h.takeWhile_eq
  have hrest := h.dropWhile_eq
  rw [he, h'.takeWhile_eq] at hauthority
  rw [he, h'.dropWhile_eq] at hrest
  have hsplit := h.splitUserInfo_eq
  rw [← hauthority, h'.splitUserInfo_eq, Prod.mk.injEq] at hsplit
  exact ⟨hsplit.1.symm, hsplit.2.symm, hrest.symm⟩

/-- More user information can be put in front. -/
theorem prepend (h : IsAuthority userInfo hosts rest) {w : List Char}
    (hw : ∀ c ∈ w, endsAuthority c = false) :
    IsAuthority (some (w ++ (userInfo.map ('@' :: ·)).getD [])) hosts rest := by
  refine ⟨?_, h.hosts, h.rest⟩
  intro u hu c hc
  cases hu
  rcases List.mem_append.mp hc with hm | hm
  · exact hw c hm
  · cases userInfo with
    | none => cases hm
    | some v =>
      rcases List.mem_cons.mp hm with rfl | hv
      · rfl
      · exact h.userInfo v rfl c hv

/-- The rest can go on. -/
theorem append_rest (h : IsAuthority userInfo hosts rest) {after : List Char}
    (ha : ∀ c ∈ after.head?, endsAuthority c = true) :
    IsAuthority userInfo hosts (rest ++ after) := by
  refine ⟨h.userInfo, h.hosts, ?_⟩
  cases rest with
  | nil => exact ha
  | cons c rest => exact h.rest

/-- Blanks and controls at the end belong to the rest, or to the hosts if there is no rest. -/
theorem append_blanks (h : IsAuthority userInfo hosts rest) {late : List Char}
    (hl : ∀ c ∈ late, c.toNat ≤ 0x20) :
    ∃ more rest', IsAuthority userInfo (hosts ++ more) rest' ∧
      withUserInfo userInfo (hosts ++ rest) ++ late =
        withUserInfo userInfo ((hosts ++ more) ++ rest') := by
  cases rest with
  | cons c rest =>
    refine ⟨[], (c :: rest) ++ late, ?_, ?_⟩
    · rw [List.append_nil]
      exact ⟨h.userInfo, h.hosts, h.rest⟩
    · rw [← withUserInfo_append, List.append_nil, List.append_assoc]
  | nil =>
    refine ⟨late, [], ⟨h.userInfo, fun c hc ↦ ?_, by simp⟩, ?_⟩
    · rcases List.mem_append.mp hc with hm | hm
      · exact h.hosts c hm
      · have hle := hl c hm
        constructor
        · rintro rfl
          exact absurd hle (by decide)
        · simp only [endsAuthority, Bool.or_eq_false_iff, decide_eq_false_iff_not]
          refine ⟨⟨?_, ?_⟩, ?_⟩ <;> rintro rfl <;> exact absurd hle (by decide)
    · rw [← withUserInfo_append, List.append_nil, List.append_nil]

/-- Nothing that counts is lost with the characters that do not. -/
theorem filter (h : IsAuthority userInfo hosts rest) :
    IsAuthority (userInfo.map fun u ↦ u.filter fun c ↦ !isIgnored c)
      (hosts.filter fun c ↦ !isIgnored c) (rest.filter fun c ↦ !isIgnored c) := by
  refine ⟨?_, fun c hc ↦ h.hosts c (List.mem_filter.mp hc).1, ?_⟩
  · intro u hu c hc
    obtain ⟨w, hw, rfl⟩ := Option.map_eq_some_iff.mp hu
    exact h.userInfo w hw c (List.mem_filter.mp hc).1
  · intro c hc
    cases rest with
    | nil => cases hc
    | cons d rest =>
      have hd := h.rest d rfl
      have hi : isIgnored d = false := by
        simp only [endsAuthority, Bool.or_eq_true, decide_eq_true_eq] at hd
        rcases hd with (rfl | rfl) | rfl <;> rfl
      rw [List.filter_cons_of_pos (by simp [hi])] at hc
      cases hc
      exact hd

end IsAuthority

/-- Host, port, path and query of a URI come from the parts of its authority. -/
theorem exists_of_ofAuthority {userInfo : Option (List Char)} {hosts rest : List Char} {uri : Uri}
    (h : ofAuthority userInfo hosts rest = .ok uri) :
    ∃ afterPort, readHostAndPort hosts = .ok (uri.host, uri.port, afterPort) ∧
      uri.path = readPathAfterAuthority ((afterPort ++ rest).takeWhile fun c ↦ !endsPath c) ∧
      uri.query = readQuery ((afterPort ++ rest).dropWhile fun c ↦ !endsPath c) := by
  rw [ofAuthority] at h
  split at h
  · cases h
  · split at h
    · cases h
    · next afterPort hr =>
      dsimp only at h
      split at h
      · cases h
      · cases h
        exact ⟨afterPort, hr, rfl, rfl⟩

/-- User information in front of a text with user information. -/
theorem append_cons_withUserInfo (w : List Char) (userInfo : Option (List Char))
    (text : List Char) :
    w ++ '@' :: withUserInfo userInfo text =
      withUserInfo (some (w ++ (userInfo.map ('@' :: ·)).getD [])) text := by
  cases userInfo <;> simp [withUserInfo]

/-- A character above the blank is not ignored. -/
theorem isIgnored_of_lt {c : Char} (h : 0x20 < c.toNat) : isIgnored c = false := by
  simp only [isIgnored, Bool.or_eq_false_iff, decide_eq_false_iff_not]
  refine ⟨⟨?_, ?_⟩, ?_⟩ <;> rintro rfl <;> exact absurd h (by decide)

/-- A text without blanks and controls has no ignored characters. -/
theorem filter_eq_self_of_lt {cs : List Char} (h : ∀ c ∈ cs, 0x20 < c.toNat) :
    cs.filter (fun c ↦ !isIgnored c) = cs :=
  List.filter_eq_self.mpr fun c hc ↦ by simp [isIgnored_of_lt (h c hc)]

/-- A character that counts protects everything before it; only ignored characters are left out
there. -/
theorem clean_append_cons (a : List Char) {c : Char} (b : List Char) (hc : 0x20 < c.toNat) :
    clean (a ++ c :: b) = (a.filter fun c ↦ !isIgnored c) ++ c :: clean b := by
  have hd : decide (c.toNat ≤ 0x20) = false := by simpa using hc
  rw [clean, Text.dropEnd_append_cons a b hd, List.filter_append, List.filter_cons,
    isIgnored_of_lt hc]
  rfl

/-- User information and what follows it are cleaned each for itself, up to a character that
counts. -/
theorem clean_withUserInfo (userInfo : Option (List Char)) (a : List Char) {c : Char}
    (b : List Char) (hc : 0x20 < c.toNat) :
    clean ('/' :: '/' :: withUserInfo userInfo (a ++ c :: b)) =
      '/' :: '/' :: withUserInfo (userInfo.map fun u ↦ u.filter fun c ↦ !isIgnored c)
        ((a.filter fun c ↦ !isIgnored c) ++ c :: clean b) := by
  have hat : isIgnored '@' = false := by decide
  have hslash : isIgnored '/' = false := by decide
  rw [withUserInfo_append, withUserInfo_append, ← List.cons_append, ← List.cons_append,
    clean_append_cons _ _ hc]
  cases userInfo with
  | none => simp [withUserInfo, hslash]
  | some u => simp [withUserInfo, hslash, hat]

private theorem endsAuthority_of_mem_head?_clean {rest : List Char}
    (h : ∀ c ∈ rest.head?, endsAuthority c = true) :
    ∀ c ∈ (clean rest).head?, endsAuthority c = true := by
  cases rest with
  | nil => exact h
  | cons d rest =>
    have hd := h d rfl
    have hlt : 0x20 < d.toNat := by
      simp only [endsAuthority, Bool.or_eq_true, decide_eq_true_eq] at hd
      rcases hd with (rfl | rfl) | rfl <;> decide
    have hclean := clean_append_cons [] rest hlt
    rw [List.nil_append] at hclean
    rw [hclean]
    intro c hc
    cases hc
    exact hd

/-- A text with hosts is read by its parts. If the hosts hold no blanks or controls, they are read
as they are. -/
theorem read_withUserInfo {userInfo : Option (List Char)} {hosts rest : List Char}
    (h : IsAuthority userInfo hosts rest) (hne : hosts ≠ []) (hlt : ∀ c ∈ hosts, 0x20 < c.toNat) :
    read ('/' :: '/' :: withUserInfo userInfo (hosts ++ rest)) =
      ofAuthority (userInfo.map fun u ↦ u.filter fun c ↦ !isIgnored c) hosts (clean rest) := by
  obtain ⟨before, last, rfl⟩ := hosts.eq_nil_or_concat'.resolve_left hne
  have hlast : 0x20 < last.toNat := hlt last (by simp)
  have hclean : clean ('/' :: '/' :: withUserInfo userInfo (before ++ [last] ++ rest)) =
      '/' :: '/' :: withUserInfo (userInfo.map fun u ↦ u.filter fun c ↦ !isIgnored c)
        (before ++ [last] ++ clean rest) := by
    rw [List.append_assoc, List.singleton_append, clean_withUserInfo _ _ _ hlast,
      filter_eq_self_of_lt fun c hc ↦ hlt c (List.mem_append_left _ hc), List.append_assoc,
      List.singleton_append]
  have hauthority : IsAuthority (userInfo.map fun u ↦ u.filter fun c ↦ !isIgnored c)
      (before ++ [last]) (clean rest) :=
    ⟨h.filter.userInfo, h.hosts, endsAuthority_of_mem_head?_clean h.rest⟩
  rw [read, hclean]
  exact hauthority.readAuthority_eq

/-- A text without ignored characters loses blanks and controls at its end, and nothing else. -/
theorem exists_eq_clean_append {cs : List Char} (h : ∀ c ∈ cs, isIgnored c = false) :
    ∃ late, cs = clean cs ++ late ∧ ∀ c ∈ late, c.toNat ≤ 0x20 := by
  obtain ⟨late, he, hl⟩ := Text.exists_eq_dropEnd_append (fun c ↦ c.toNat ≤ 0x20) cs
  have hkept : clean cs = Text.dropEnd (fun c ↦ c.toNat ≤ 0x20) cs := by
    rw [clean]
    apply List.filter_eq_self.mpr
    intro c hc
    rw [h c (he ▸ List.mem_append_left late hc)]
    rfl
  exact ⟨late, hkept ▸ he, fun c hc ↦ of_decide_eq_true (hl c hc)⟩

/-- A text without blanks and controls stays as it is. -/
theorem clean_eq_self {cs : List Char} (h : ∀ c ∈ cs, 0x20 < c.toNat) : clean cs = cs := by
  rw [clean, Text.dropEnd_eq_self fun c hc ↦ by simpa using h c hc, filter_eq_self_of_lt h]

end ConnectionConfig.Uri
