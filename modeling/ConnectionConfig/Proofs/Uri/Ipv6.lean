import ConnectionConfig.Proofs.Text.Cuts
import ConnectionConfig.Uri.Ipv6

/-!
# The characters of an IPv6 address

Whatever is read as an address holds hexadecimal digits of either case, colons and dots only.
Nothing else stands between the square brackets around it.
-/

namespace ConnectionConfig.Ipv6

/-- Whether a character can stand in the text of an address: a hexadecimal digit, a colon or a
dot. -/
def isTextChar (c : Char) : Bool := (Percent.hexDigit? c).isSome || c = ':' || c = '.'

private theorem isSome_of_mem_mapM {α β : Type} {f : α → Option β} {as : List α} {bs : List β}
    (h : as.mapM f = some bs) : ∀ a ∈ as, (f a).isSome = true := by
  induction as generalizing bs with
  | nil => simp
  | cons a as ih =>
    rw [List.mapM_cons] at h
    obtain ⟨b, hb, h⟩ := Option.bind_eq_some_iff.mp h
    obtain ⟨rest, hrest, -⟩ := Option.bind_eq_some_iff.mp h
    exact List.forall_mem_cons.mpr ⟨by rw [hb]; rfl, ih hrest⟩

private theorem isTextChar_of_isDigit {c : Char} (h : c.isDigit = true) : isTextChar c = true := by
  simp [isTextChar, Percent.hexDigit?, h]

private theorem isTextChar_of_readGroup? {cs : List Char} {n : Nat} (h : readGroup? cs = some n) :
    ∀ c ∈ cs, isTextChar c = true := by
  intro c hc
  rw [readGroup?] at h
  split at h
  · cases h
  · obtain ⟨digits, hdigits, -⟩ := Option.map_eq_some_iff.mp h
    rw [isTextChar, isSome_of_mem_mapM hdigits c hc]
    rfl

private theorem isDigit_of_readOctet? {cs : List Char} (h : (readOctet? cs).isSome = true) :
    ∀ c ∈ cs, c.isDigit = true := by
  rw [readOctet?] at h
  split at h
  · cases h
  · next hcs =>
    simp only [Bool.or_eq_true, not_or, Bool.not_eq_true, Bool.not_eq_false'] at hcs
    exact List.all_eq_true.mp hcs.2

private theorem isTextChar_of_readQuad? {cs : List Char} {groups : List Nat}
    (h : readQuad? cs = some groups) : ∀ c ∈ cs, isTextChar c = true := by
  rw [readQuad?] at h
  split at h
  · next octets =>
    have hparts : ∀ part ∈ cs.splitOn '.', ∀ c ∈ part, c.isDigit = true := fun part hp ↦
      isDigit_of_readOctet? (isSome_of_mem_mapM octets part hp)
    intro c hc
    rcases Text.forall_mem_splitOn_iff.mp hparts c hc with hd | rfl
    · exact isTextChar_of_isDigit hd
    · rfl
  · cases h

private theorem isTextChar_of_readGroups? {quad : Bool} {parts : List (List Char)}
    {groups : List Nat} (h : readGroups? quad parts = some groups) :
    ∀ part ∈ parts, ∀ c ∈ part, isTextChar c = true := by
  fun_induction readGroups? quad parts generalizing groups with
  | case1 => simp
  | case2 part hquad =>
    simp only [List.mem_singleton, forall_eq]
    exact isTextChar_of_readQuad? h
  | case3 part hquad =>
    simp only [List.mem_singleton, forall_eq]
    obtain ⟨n, hn, -⟩ := Option.map_eq_some_iff.mp h
    exact isTextChar_of_readGroup? hn
  | case4 part rest _ ih =>
    obtain ⟨n, hn, h⟩ := Option.bind_eq_some_iff.mp h
    obtain ⟨others, hothers, -⟩ := Option.bind_eq_some_iff.mp h
    exact List.forall_mem_cons.mpr ⟨isTextChar_of_readGroup? hn, ih hothers⟩

private theorem isTextChar_of_splitOn {cs : List Char}
    (h : ∀ part ∈ cs.splitOn ':', ∀ c ∈ part, isTextChar c = true) :
    ∀ c ∈ cs, isTextChar c = true := by
  intro c hc
  rcases Text.forall_mem_splitOn_iff.mp h c hc with ht | rfl
  · exact ht
  · rfl

private theorem isTextChar_of_readSide? {quad : Bool} {cs : List Char} {groups : List Nat}
    (h : readSide? quad cs = some groups) : ∀ c ∈ cs, isTextChar c = true := by
  rw [readSide?] at h
  split at h
  · next hempty =>
    rw [List.isEmpty_iff.mp hempty]
    simp
  · exact isTextChar_of_splitOn (isTextChar_of_readGroups? h)

/-- The two sides and the gap make up the text. -/
theorem eq_append_of_cutGap? {cs before after : List Char}
    (h : cutGap? cs = some (before, after)) : cs = before ++ ':' :: ':' :: after := by
  fun_induction cutGap? cs generalizing before with
  | case1 rest =>
    cases h
    rfl
  | case2 c rest _ ih =>
    obtain ⟨⟨b, a⟩, hcut, he⟩ := Option.map_eq_some_iff.mp h
    cases he
    rw [ih hcut]
    rfl
  | case3 => cases h

/-- What is read as an address holds hexadecimal digits, colons and dots only. -/
theorem isTextChar_of_read? {cs : List Char} {groups : List Nat} (h : read? cs = some groups) :
    ∀ c ∈ cs, isTextChar c = true := by
  rw [read?] at h
  split at h
  · obtain ⟨hgroups, -⟩ := Option.filter_eq_some_iff.mp h
    exact isTextChar_of_splitOn (isTextChar_of_readGroups? hgroups)
  · next before after hcut =>
    obtain ⟨left, hleft, h⟩ := Option.bind_eq_some_iff.mp h
    obtain ⟨right, hright, -⟩ := Option.bind_eq_some_iff.mp h
    rw [eq_append_of_cutGap? hcut]
    intro c hc
    rcases List.mem_append.mp hc with hb | ha
    · exact isTextChar_of_readSide? hleft c hb
    · rcases List.mem_cons.mp ha with rfl | ha
      · rfl
      · rcases List.mem_cons.mp ha with rfl | ha
        · rfl
        · exact isTextChar_of_readSide? hright c ha

/-- There is no square bracket in what is read as an address. -/
theorem ne_bracket_of_read? {cs : List Char} {groups : List Nat} (h : read? cs = some groups) :
    ∀ c ∈ cs, c ≠ '[' ∧ c ≠ ']' := by
  intro c hc
  have ht := isTextChar_of_read? h c hc
  constructor
  · rintro rfl
    exact absurd ht (by decide)
  · rintro rfl
    exact absurd ht (by decide)

end ConnectionConfig.Ipv6
