import ConnectionConfig.Proofs.Uri.Escapes
import ConnectionConfig.Uri.Basic

/-!
# Paths of one segment

A path of one escaped segment is kept as it is, unless the segment is a dot segment. Such a segment
stands for one or two dots, however the dots are escaped.
-/

namespace ConnectionConfig.Uri

private theorem eq_or_eq_of_toLower {c d : Char} (h : c.toLower = d) : c = d ∨ c = d.toUpper := by
  subst h
  by_cases hc : c.toNat < 0x80
  · exact Text.forall_ascii (p := fun c ↦ c = c.toLower ∨ c = c.toLower.toUpper) (by decide +kernel)
      hc
  · exact .inl (Text.toLower_eq_self hc).symm

private theorem eq_of_toLower {c d : Char} (h : c.toLower = d) (hd : d.toUpper = d) : c = d := by
  rcases eq_or_eq_of_toLower h with hc | hc
  · exact hc
  · exact hc.trans hd

private theorem decode_dot_append {dot : List Char}
    (h : dot.map Char.toLower = ".".toList ∨ dot.map Char.toLower = "%2e".toList)
    (rest : List Char) : Percent.decode (dot ++ rest) = 0x2E :: Percent.decode rest := by
  rcases h with h | h
  · obtain ⟨a, t, rfl, ha, ht⟩ := List.map_eq_cons_iff.mp h
    rw [List.map_eq_nil_iff.mp ht, eq_of_toLower ha (by decide)]
    exact Percent.decode_cons_of_ne (by decide) rest
  · obtain ⟨a, t, rfl, ha, ht⟩ := List.map_eq_cons_iff.mp h
    obtain ⟨b, u, rfl, hb, hu⟩ := List.map_eq_cons_iff.mp ht
    obtain ⟨c, v, rfl, hc, hv⟩ := List.map_eq_cons_iff.mp hu
    rw [List.map_eq_nil_iff.mp hv, eq_of_toLower ha (by decide), eq_of_toLower hb (by decide)]
    rcases eq_or_eq_of_toLower hc with rfl | rfl
    · exact Percent.decode_percent_digits (h := 2) (l := 14) (by decide) (by decide) rest
    · exact Percent.decode_percent_digits (h := 2) (l := 14) (by decide) (by decide) rest

/-- A segment for the current level stands for one dot. -/
theorem decode_of_isSingleDot {segment : List Char} (h : isSingleDot segment = true) :
    Percent.decode segment = Utf8.encode ['.'] := by
  have hw : segment.map Char.toLower = ".".toList ∨ segment.map Char.toLower = "%2e".toList := by
    simpa [isSingleDot] using h
  have hd := decode_dot_append hw []
  rw [List.append_nil] at hd
  exact hd

/-- A segment for the level above stands for two dots. -/
theorem decode_of_isDoubleDot {segment : List Char} (h : isDoubleDot segment = true) :
    Percent.decode segment = Utf8.encode ['.', '.'] := by
  have hw : ∃ a b, (a = ".".toList ∨ a = "%2e".toList) ∧ (b = ".".toList ∨ b = "%2e".toList) ∧
      segment.map Char.toLower = a ++ b := by
    simp only [isDoubleDot, List.contains_iff_mem, List.mem_cons, List.not_mem_nil, or_false] at h
    rcases h with h | h | h | h
    · exact ⟨_, _, .inl rfl, .inl rfl, h⟩
    · exact ⟨_, _, .inl rfl, .inr rfl, h⟩
    · exact ⟨_, _, .inr rfl, .inl rfl, h⟩
    · exact ⟨_, _, .inr rfl, .inr rfl, h⟩
  obtain ⟨a, b, ha, hb, hab⟩ := hw
  obtain ⟨first, second, rfl, rfl, rfl⟩ := List.map_eq_append_iff.mp hab
  have hsecond := decode_dot_append hb []
  rw [List.append_nil] at hsecond
  rw [decode_dot_append ha, hsecond]
  rfl

/-- An escaped text is a dot segment only if it is one dot or two. -/
theorem not_dots_of_encode {reserved : Char → Bool} (h : reserved '%' = true) {cs : List Char}
    (h1 : cs ≠ ['.']) (h2 : cs ≠ ['.', '.']) :
    isSingleDot (Percent.encode reserved cs) = false ∧
      isDoubleDot (Percent.encode reserved cs) = false := by
  have hinj : ∀ ds, Percent.decode (Percent.encode reserved cs) = Utf8.encode ds → cs = ds := by
    intro ds hd
    rw [Percent.decode_encode h] at hd
    have := congrArg Utf8.decode? hd
    rw [Utf8.decode?_encode, Utf8.decode?_encode] at this
    exact Option.some.inj this
  constructor
  · rw [← Bool.not_eq_true]
    exact fun hs ↦ h1 (hinj _ (decode_of_isSingleDot hs))
  · rw [← Bool.not_eq_true]
    exact fun hd ↦ h2 (hinj _ (decode_of_isDoubleDot hd))

/-- A path of one segment is kept. -/
theorem readPathAfterAuthority_segment {segment : List Char}
    (hp : ∀ c ∈ segment, Percent.isPlain c = true) (h1 : isSingleDot segment = false)
    (h2 : isDoubleDot segment = false) :
    readPathAfterAuthority ('/' :: segment) = '/' :: segment := by
  have hs : '/' ∉ segment := fun hm ↦ absurd (hp _ hm) (by decide)
  rw [readPathAfterAuthority, readPath, Percent.encode_inPath_of_isPlain hp,
    List.splitOn_eq_singleton hs, resolveSegments]
  simp [h1, h2, resolveSegments]

end ConnectionConfig.Uri
