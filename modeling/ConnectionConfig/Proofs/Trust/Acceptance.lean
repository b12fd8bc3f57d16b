import ConnectionConfig.Proofs.Outcomes
import ConnectionConfig.Trust.List

/-!
# Certificates that are not accepted

Whether a certificate that is not accepted matters depends on its source. One from the platform is
left out, wherever it stands, and nothing else changes. The first one from any other source decides
the error. Anchors of the root program are not looked at.
-/

namespace ConnectionConfig.TrustList

variable {accepts : Certificate → Bool} {entries : List (TrustSource × TrustAnchor)}

/-- Whether an entry is a certificate from the platform that is not accepted. -/
def isLeftOut (accepts : Certificate → Bool) : TrustSource × TrustAnchor → Bool
  | (source, .certificate c) => source == .platform && !accepts c
  | (_, .root _) => false

/-- Whether an entry is a certificate from another source than the platform that is not accepted. -/
def isRefused (accepts : Certificate → Bool) : TrustSource × TrustAnchor → Bool
  | (source, .certificate c) => source != .platform && !accepts c
  | (_, .root _) => false

/-- The first certificate that is refused comes from a source. -/
def IsFirstRefused (accepts : Certificate → Bool) (entries : List (TrustSource × TrustAnchor))
    (source : TrustSource) : Prop :=
  ∃ before c after, entries = before ++ (source, .certificate c) :: after ∧ source ≠ .platform ∧
    accepts c = false ∧ ∀ entry ∈ before, isRefused accepts entry = false

/-- The entries that are not left out. -/
def considered (accepts : Certificate → Bool) (entries : List (TrustSource × TrustAnchor)) :
    List (TrustSource × TrustAnchor) :=
  entries.filter fun entry ↦ !isLeftOut accepts entry

/-- An entry is refused just when it is a certificate from another source than the platform that is
not accepted. -/
theorem isRefused_iff {entry : TrustSource × TrustAnchor} :
    isRefused accepts entry = true ↔
      ∃ c, entry.2 = .certificate c ∧ entry.1 ≠ .platform ∧ accepts c = false := by
  obtain ⟨source, anchor⟩ := entry
  cases anchor with
  | root place => simp [isRefused]
  | certificate c => simp [isRefused]

private theorem isLeftOut_of_isRefused {entry : TrustSource × TrustAnchor}
    (h : isRefused accepts entry = true) : isLeftOut accepts entry = false := by
  obtain ⟨source, anchor⟩ := entry
  obtain ⟨c, rfl, hsource, -⟩ := isRefused_iff.mp h
  simp [isLeftOut, hsource]

private theorem anchorsOf_cons (entry : TrustSource × TrustAnchor) :
    anchorsOf accepts (entry :: entries) =
      if isRefused accepts entry then .error (.anchorRejected entry.1)
      else if isLeftOut accepts entry then anchorsOf accepts entries
      else (anchorsOf accepts entries).map (entry.2 :: ·) := by
  obtain ⟨source, anchor⟩ := entry
  cases anchor with
  | root place => simp [anchorsOf, isRefused, isLeftOut]
  | certificate c =>
    rw [anchorsOf]
    cases haccepted : accepts c with
    | true => simp [isRefused, isLeftOut, haccepted]
    | false =>
      by_cases hplatform : source = .platform
      · simp [isRefused, isLeftOut, haccepted, hplatform]
      · simp [isRefused, haccepted, hplatform]

private theorem anchorsOf_eq (accepts : Certificate → Bool)
    (entries : List (TrustSource × TrustAnchor)) :
    anchorsOf accepts entries =
      match entries.find? (isRefused accepts) with
      | some entry => .error (.anchorRejected entry.1)
      | none => .ok ((considered accepts entries).map Prod.snd) := by
  induction entries with
  | nil => rfl
  | cons entry rest ih =>
    rw [anchorsOf_cons, List.find?_cons, considered, List.filter_cons]
    cases hrefused : isRefused accepts entry with
    | true => rfl
    | false =>
      rw [ih]
      cases hleft : isLeftOut accepts entry with
      | true => rfl
      | false =>
        cases rest.find? (isRefused accepts) with
        | some first => rfl
        | none => rfl

private theorem isFirstRefused_iff {source : TrustSource} :
    IsFirstRefused accepts entries source ↔
      ∃ entry, entries.find? (isRefused accepts) = some entry ∧ entry.1 = source := by
  simp only [List.find?_eq_some_iff_append, Bool.not_eq_true']
  constructor
  · rintro ⟨before, c, after, he, hsource, hc, hbefore⟩
    exact ⟨_, ⟨isRefused_iff.mpr ⟨c, rfl, hsource, hc⟩, before, after, he, hbefore⟩, rfl⟩
  · rintro ⟨⟨_, anchor⟩, ⟨hrefused, before, after, he, hbefore⟩, rfl⟩
    obtain ⟨c, rfl, hsource, hc⟩ := isRefused_iff.mp hrefused
    exact ⟨before, c, after, he, hsource, hc, hbefore⟩

/-- The anchors of a trust list fail with the source of the first refused certificate. -/
theorem anchors_eq_error_iff {t : TrustList} {e : ConnectionError} :
    t.anchors accepts = .error e ↔
      ∃ source, IsFirstRefused accepts t.entries source ∧ e = .anchorRejected source := by
  rw [anchors, anchorsOf_eq]
  simp only [isFirstRefused_iff]
  cases t.entries.find? (isRefused accepts) with
  | none => simp
  | some entry => simp [eq_comm]

/-- Without refused certificates a trust list gives the anchors of all entries that are not left
out. -/
theorem anchors_eq_ok_iff {t : TrustList} {kept : List TrustAnchor} :
    t.anchors accepts = .ok kept ↔
      (∀ entry ∈ t.entries, isRefused accepts entry = false) ∧
        kept = (considered accepts t.entries).map Prod.snd := by
  rw [anchors, anchorsOf_eq]
  cases hfind : t.entries.find? (isRefused accepts) with
  | none =>
    have hnone : ∀ entry ∈ t.entries, isRefused accepts entry = false := by
      simpa using List.find?_eq_none.mp hfind
    constructor
    · intro h
      cases h
      exact ⟨hnone, rfl⟩
    · rintro ⟨-, rfl⟩
      rfl
  | some entry =>
    have hrefused := List.find?_some hfind
    constructor
    · intro h
      cases h
    · rintro ⟨hnone, -⟩
      rw [hnone entry (List.mem_of_find?_eq_some hfind)] at hrefused
      cases hrefused

private theorem anchorsOf_considered (accepts : Certificate → Bool)
    (entries : List (TrustSource × TrustAnchor)) :
    anchorsOf accepts (considered accepts entries) = anchorsOf accepts entries := by
  have hfind : (considered accepts entries).find? (isRefused accepts) =
      entries.find? (isRefused accepts) := by
    rw [considered, List.find?_filter]
    congr 1
    funext entry
    cases hrefused : isRefused accepts entry with
    | false => simp
    | true => simp [isLeftOut_of_isRefused hrefused]
  have hagain : considered accepts (considered accepts entries) = considered accepts entries := by
    simp [considered]
  rw [anchorsOf_eq, anchorsOf_eq, hfind, hagain]

private theorem length_considered (accepts : Certificate → Bool)
    (entries : List (TrustSource × TrustAnchor)) :
    (considered accepts entries).length + entries.countP (isLeftOut accepts) = entries.length := by
  rw [considered, ← List.countP_eq_length_filter, Nat.add_comm]
  have hparts := List.length_eq_countP_add_countP (isLeftOut accepts) (l := entries)
  simpa only [Bool.not_eq_true, Bool.decide_eq_false] using hparts.symm

/-- The anchors of a trust list fail just when a certificate from another source than the platform
is not accepted, and the error names the source of the first one. Otherwise the anchors are those of
all entries, in their order, but for the certificates from the platform that are not accepted; an
anchor of the root program is always among them. Certificates from the platform that are not
accepted can come in or go at any place, and in any number, and the outcome stays the same. -/
theorem anchors_strict_outside_platform (accepts : Certificate → Bool) (t : TrustList) :
    (∀ e, t.anchors accepts = .error e ↔
      ∃ source, IsFirstRefused accepts t.entries source ∧ e = .anchorRejected source) ∧
    ((∃ e, t.anchors accepts = .error e) ↔
      ∃ entry ∈ t.entries, ∃ c, entry.2 = .certificate c ∧ entry.1 ≠ .platform ∧
        accepts c = false) ∧
    (∀ kept, t.anchors accepts = .ok kept →
      kept = (considered accepts t.entries).map Prod.snd ∧
      kept.length + t.entries.countP (isLeftOut accepts) = t.size ∧
      ∀ source place, (source, .root place) ∈ t.entries → .root place ∈ kept) ∧
    ∀ other : TrustList, considered accepts other.entries = considered accepts t.entries →
      other.anchors accepts = t.anchors accepts := by
  refine ⟨fun e ↦ anchors_eq_error_iff, ?_, fun kept h ↦ ?_, fun other h ↦ ?_⟩
  · simp only [← isRefused_iff, anchors_eq_error_iff, isFirstRefused_iff]
    rw [← List.find?_isSome, Option.isSome_iff_exists]
    constructor
    · rintro ⟨_, _, ⟨entry, hfind, -⟩, -⟩
      exact ⟨entry, hfind⟩
    · rintro ⟨entry, hfind⟩
      exact ⟨_, _, ⟨entry, hfind, rfl⟩, rfl⟩
  · obtain ⟨-, rfl⟩ := anchors_eq_ok_iff.mp h
    refine ⟨rfl, ?_, fun source place hroot ↦ ?_⟩
    · rw [List.length_map, length_considered, size]
    · exact List.mem_map.mpr ⟨_, List.mem_filter.mpr ⟨hroot, rfl⟩, rfl⟩
  · rw [anchors, anchors, ← anchorsOf_considered, h, anchorsOf_considered]

/-- Two certificates from the platform that are not accepted, before and after all others. -/
theorem anchors_strict_outside_platform_two_left_out :
    let good : TrustAnchor := .certificate ⟨[0x30, 0x00]⟩
    let bad : TrustAnchor := .certificate ⟨[0x31]⟩
    let accepts : Certificate → Bool := fun c ↦ c == ⟨[0x30, 0x00]⟩
    let t : TrustList :=
      ⟨[(.platform, bad), (.caFile, good), (.rootProgram, .root 7), (.platform, bad)]⟩
    t.anchors accepts = .ok [good, .root 7] ∧ [good, .root 7].length + 2 = t.size ∧
      ∀ place, anchors accepts ⟨[(.platform, bad), (.caFile, good), (.platform, bad),
        (.shippedBundle "roots", bad), (.platform, bad), (.rootProgram, .root place)]⟩ =
          .error (.anchorRejected (.shippedBundle "roots")) := by
  intro good bad accepts t
  have hkept : t.anchors accepts = .ok [good, .root 7] := by decide
  obtain ⟨-, -, hok, -⟩ := anchors_strict_outside_platform accepts t
  refine ⟨hkept, (hok _ hkept).2.1, fun place ↦ ?_⟩
  let refusing : TrustList := ⟨[(.caFile, good), (.shippedBundle "roots", bad),
    (.rootProgram, .root place)]⟩
  obtain ⟨hfail, -, -, hsame⟩ := anchors_strict_outside_platform accepts refusing
  have hfirst : IsFirstRefused accepts refusing.entries (.shippedBundle "roots") :=
    ⟨[(.caFile, good)], ⟨[0x31]⟩, [(.rootProgram, .root place)], rfl, by decide, by decide,
      by decide⟩
  rw [← (hfail _).mpr ⟨_, hfirst, rfl⟩]
  exact hsame _ rfl

end ConnectionConfig.TrustList
