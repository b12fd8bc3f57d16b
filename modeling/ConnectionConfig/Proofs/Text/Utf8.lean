import ConnectionConfig.Text.Utf8

/-!
# UTF-8 is read back from where a character starts

A byte that continues nothing starts a new part, whatever stands before it. Reading can therefore be
cut at such a byte, and the bytes of a text read back as its characters.
-/

namespace ConnectionConfig.Utf8

/-- No character of the sequence starts before it: it is empty, or its first byte continues
nothing. -/
def StartsFresh (bytes : List UInt8) : Prop := ∀ b ∈ bytes.head?, continues b = false

private theorem within_eq_false {b : UInt8} {low high : Nat} (h : continues b = false)
    (hl : 0x80 ≤ low) (hh : high ≤ 0xBF) : within low high b = false := by
  simp only [continues, within, Bool.and_eq_false_iff, decide_eq_false_iff_not] at h ⊢
  omega

private theorem low_three (n : Nat) : 0x80 ≤ if n = 0xE0 then 0xA0 else 0x80 := by
  split <;> omega

private theorem high_three (n : Nat) : (if n = 0xED then 0x9F else 0xBF) ≤ 0xBF := by
  split <;> omega

private theorem low_four (n : Nat) : 0x80 ≤ if n = 0xF0 then 0x90 else 0x80 := by
  split <;> omega

private theorem high_four (n : Nat) : (if n = 0xF4 then 0x8F else 0xBF) ≤ 0xBF := by
  split <;> omega

private theorem frontTwo_append (n : Nat) (rest : List UInt8) {s : List UInt8}
    (h : StartsFresh s) : frontTwo n (rest ++ s) = frontTwo n rest := by
  cases rest with
  | cons => rfl
  | nil =>
    cases s with
    | nil => rfl
    | cons b s => simp [frontTwo, h b rfl]

private theorem frontThree_append (n : Nat) (rest : List UInt8) {s : List UInt8}
    (h : StartsFresh s) : frontThree n (rest ++ s) = frontThree n rest := by
  cases rest with
  | nil =>
    cases s with
    | nil => rfl
    | cons b s => simp [frontThree, within_eq_false (h b rfl) (low_three n) (high_three n)]
  | cons c rest =>
    cases rest with
    | cons => rfl
    | nil =>
      cases s with
      | nil => rfl
      | cons b s => simp [frontThree, h b rfl]

private theorem frontFour_append (n : Nat) (rest : List UInt8) {s : List UInt8}
    (h : StartsFresh s) : frontFour n (rest ++ s) = frontFour n rest := by
  cases rest with
  | nil =>
    cases s with
    | nil => rfl
    | cons b s => simp [frontFour, within_eq_false (h b rfl) (low_four n) (high_four n)]
  | cons c rest =>
    cases rest with
    | nil =>
      cases s with
      | nil => rfl
      | cons b s => simp [frontFour, h b rfl]
    | cons d rest =>
      cases rest with
      | cons => rfl
      | nil =>
        cases s with
        | nil => rfl
        | cons b s => simp [frontFour, h b rfl]

private theorem front_append (b : UInt8) (rest : List UInt8) {s : List UInt8}
    (h : StartsFresh s) : front b (rest ++ s) = front b rest := by
  unfold front
  simp only [frontTwo_append _ _ h, frontThree_append _ _ h, frontFour_append _ _ h]

private theorem frontTwo_le (n : Nat) (rest : List UInt8) :
    (frontTwo n rest).2 ≤ rest.length := by
  unfold frontTwo
  split
  · split <;> simp
  · simp

private theorem frontThree_le (n : Nat) (rest : List UInt8) :
    (frontThree n rest).2 ≤ rest.length := by
  unfold frontThree
  split
  · next c rest =>
    generalize within _ _ c = inside
    cases inside with
    | false => simp
    | true =>
      cases rest with
      | nil => simp
      | cons d rest => cases hd : continues d <;> simp [hd]
  · simp

private theorem frontFour_le (n : Nat) (rest : List UInt8) :
    (frontFour n rest).2 ≤ rest.length := by
  unfold frontFour
  split
  · next c rest =>
    generalize within _ _ c = inside
    cases inside with
    | false => simp
    | true =>
      cases rest with
      | nil => simp
      | cons d rest =>
        cases hd : continues d with
        | false => simp [hd]
        | true =>
          cases rest with
          | nil => simp [hd]
          | cons e rest => cases he : continues e <;> simp [hd, he]
  · simp

private theorem front_le (b : UInt8) (rest : List UInt8) : (front b rest).2 ≤ rest.length := by
  unfold front
  dsimp only
  split
  · simp
  · split
    · simp
    · split
      · exact frontTwo_le _ _
      · split
        · exact frontThree_le _ _
        · split
          · exact frontFour_le _ _
          · simp

private theorem charsAfter_append {s : List UInt8} (h : StartsFresh s) (skip : Nat)
    (bytes : List UInt8) (hs : skip ≤ bytes.length) :
    charsAfter skip (bytes ++ s) = charsAfter skip bytes ++ chars s := by
  induction bytes generalizing skip with
  | nil =>
    have hz : skip = 0 := by simpa using hs
    subst hz
    simp [charsAfter, chars]
  | cons b rest ih =>
    cases skip with
    | succ skip => exact ih skip (by simpa using hs)
    | zero =>
      rw [List.cons_append, charsAfter, charsAfter, front_append b rest h,
        ih _ (front_le b rest), List.cons_append]

/-- Reading can be cut where no character reaches across. -/
theorem chars_append (bytes : List UInt8) {s : List UInt8} (h : StartsFresh s) :
    chars (bytes ++ s) = chars bytes ++ chars s :=
  charsAfter_append h 0 bytes (Nat.zero_le _)

private theorem charsAfter_length (rest s : List UInt8) :
    charsAfter rest.length (rest ++ s) = chars s := by
  induction rest with
  | nil => simp [chars]
  | cons b rest ih => exact ih

private theorem chars_of_front {b : UInt8} (rest : List UInt8) {s : List UInt8} {c : Char}
    (h : front b (rest ++ s) = (some c, rest.length)) :
    chars (b :: (rest ++ s)) = some c :: chars s := by
  rw [chars, charsAfter, h, charsAfter_length]

private theorem toNat_mark {n size mark : Nat} (hn : n < size) (h : size + mark ≤ 256) :
    (UInt8.ofNat (n + mark)).toNat = n + mark := by
  rw [UInt8.toNat_ofNat']
  omega

private theorem within_mark {n low high : Nat} (hn : n < 64) (hl : low ≤ n + 0x80)
    (hh : n + 0x80 ≤ high) : within low high (UInt8.ofNat (n + 0x80)) = true := by
  rw [within, toNat_mark hn (by omega)]
  simp [hl, hh]

private theorem continues_mark {n : Nat} (hn : n < 64) :
    continues (UInt8.ofNat (n + 0x80)) = true :=
  within_mark hn (by omega) (by omega)

private theorem bits_mark {n : Nat} (hn : n < 64) : bits (UInt8.ofNat (n + 0x80)) = n := by
  have h : (UInt8.ofNat (n + 0x80)).toNat = n + 0x80 := toNat_mark hn (by omega)
  unfold bits
  omega

private theorem chars_oneByte {v : Nat} (h : v ≤ 0x7F) (s : List UInt8) :
    chars ([UInt8.ofNat v] ++ s) = some (Char.ofNat v) :: chars s := by
  apply chars_of_front []
  have hb : (UInt8.ofNat v).toNat = v := by
    rw [UInt8.toNat_ofNat']
    omega
  rw [front, hb, if_pos (by omega)]
  rfl

private theorem chars_twoBytes {v : Nat} (hlow : 0x7F < v) (hhigh : v ≤ 0x7FF) (s : List UInt8) :
    chars ([UInt8.ofNat (v / 64 % 32 + 0xC0), UInt8.ofNat (v % 64 + 0x80)] ++ s) =
      some (Char.ofNat v) :: chars s := by
  apply chars_of_front [_]
  have hq : v / 64 % 32 = v / 64 := Nat.mod_eq_of_lt (by omega)
  have hm := Nat.mod_lt v (show 64 > 0 by omega)
  have hv : (v / 64 + 0xC0 - 0xC0) * 64 + v % 64 = v := by omega
  rw [front, toNat_mark (Nat.mod_lt _ (by omega)) (by omega), hq, if_neg (by omega),
    if_neg (by omega), if_pos (by omega)]
  simp only [List.cons_append, frontTwo, continues_mark hm, bits_mark hm, ite_true, hv]
  rfl

private theorem chars_threeBytes {v : Nat} (hlow : 0x7FF < v) (hhigh : v ≤ 0xFFFF)
    (hs : v < 0xD800 ∨ 0xDFFF < v) (s : List UInt8) :
    chars ([UInt8.ofNat (v / 4096 % 16 + 0xE0), UInt8.ofNat (v / 64 % 64 + 0x80),
      UInt8.ofNat (v % 64 + 0x80)] ++ s) = some (Char.ofNat v) :: chars s := by
  apply chars_of_front [_, _]
  have hq : v / 4096 % 16 = v / 4096 := Nat.mod_eq_of_lt (by omega)
  have hm := Nat.mod_lt v (show 64 > 0 by omega)
  have hn := Nat.mod_lt (v / 64) (show 64 > 0 by omega)
  have hv : ((v / 4096 + 0xE0 - 0xE0) * 64 + v / 64 % 64) * 64 + v % 64 = v := by omega
  have hw : within (if v / 4096 + 0xE0 = 0xE0 then 0xA0 else 0x80)
      (if v / 4096 + 0xE0 = 0xED then 0x9F else 0xBF) (UInt8.ofNat (v / 64 % 64 + 0x80)) =
        true := by
    apply within_mark hn
    · split <;> omega
    · split <;> omega
  rw [front, toNat_mark (Nat.mod_lt _ (by omega)) (by omega), hq, if_neg (by omega),
    if_neg (by omega), if_neg (by omega), if_pos (by omega)]
  simp only [List.cons_append, frontThree, hw, continues_mark hm, bits_mark hm, bits_mark hn,
    ite_true, hv]
  rfl

private theorem chars_fourBytes {v : Nat} (hlow : 0xFFFF < v) (hhigh : v < 0x110000)
    (s : List UInt8) :
    chars ([UInt8.ofNat (v / 262144 % 8 + 0xF0), UInt8.ofNat (v / 4096 % 64 + 0x80),
      UInt8.ofNat (v / 64 % 64 + 0x80), UInt8.ofNat (v % 64 + 0x80)] ++ s) =
        some (Char.ofNat v) :: chars s := by
  apply chars_of_front [_, _, _]
  have hq : v / 262144 % 8 = v / 262144 := Nat.mod_eq_of_lt (by omega)
  have hm := Nat.mod_lt v (show 64 > 0 by omega)
  have hn := Nat.mod_lt (v / 64) (show 64 > 0 by omega)
  have hk := Nat.mod_lt (v / 4096) (show 64 > 0 by omega)
  have hv : (((v / 262144 + 0xF0 - 0xF0) * 64 + v / 4096 % 64) * 64 + v / 64 % 64) * 64 +
      v % 64 = v := by
    omega
  have hw : within (if v / 262144 + 0xF0 = 0xF0 then 0x90 else 0x80)
      (if v / 262144 + 0xF0 = 0xF4 then 0x8F else 0xBF) (UInt8.ofNat (v / 4096 % 64 + 0x80)) =
        true := by
    apply within_mark hk
    · split <;> omega
    · split <;> omega
  rw [front, toNat_mark (Nat.mod_lt _ (by omega)) (by omega), hq, if_neg (by omega),
    if_neg (by omega), if_neg (by omega), if_neg (by omega), if_pos (by omega)]
  simp only [List.cons_append, frontFour, hw, continues_mark hm, continues_mark hn, bits_mark hm,
    bits_mark hn, bits_mark hk, ite_true, hv]
  rfl

/-- The bytes of a character read back as it. -/
theorem chars_utf8EncodeChar_append (c : Char) (s : List UInt8) :
    chars (String.utf8EncodeChar c ++ s) = some c :: chars s := by
  have hv := c.valid
  have hc : Char.ofNat c.val.toNat = c := Char.ofNat_toNat c
  simp only [UInt32.isValidChar, Nat.isValidChar] at hv
  unfold String.utf8EncodeChar
  dsimp only
  generalize c.val.toNat = v at hv hc
  rw [← hc]
  split
  · next h1 => exact chars_oneByte h1 s
  · split
    · next h1 h2 => exact chars_twoBytes (by omega) h2 s
    · split
      · next h2 h3 => exact chars_threeBytes (by omega) h3 (by omega) s
      · next h3 => exact chars_fourBytes (by omega) (by omega) s

/-- The bytes of a text read back as its characters. -/
theorem chars_encode (cs : List Char) : chars (encode cs) = cs.map some := by
  induction cs with
  | nil => rfl
  | cons c rest ih =>
    rw [encode, List.flatMap_cons, chars_utf8EncodeChar_append, List.map_cons, ← ih, encode]

/-- Strict reading gives a text back from its bytes. -/
theorem decode?_encode (cs : List Char) : decode? (encode cs) = some cs := by
  rw [decode?, chars_encode]
  induction cs with
  | nil => rfl
  | cons c rest ih => simp [List.mapM_cons, ih]

/-- Tolerant reading gives a text back from its bytes. -/
theorem decodeTolerant_encode (cs : List Char) : decodeTolerant (encode cs) = cs := by
  rw [decodeTolerant, chars_encode, List.map_map]
  exact List.map_id'' (fun _ ↦ rfl) cs

/-- Bytes cut where no character reaches across are well-formed just when both parts are. -/
theorem isSome_decode?_append (bytes : List UInt8) {s : List UInt8} (h : StartsFresh s) :
    (decode? (bytes ++ s)).isSome = ((decode? bytes).isSome && (decode? s).isSome) := by
  rw [decode?, decode?, decode?, chars_append bytes h, List.mapM_append]
  cases (chars bytes).mapM id with
  | none => rfl
  | some cs => cases (chars s).mapM id <;> simp

/-! ## How many characters there are -/

private theorem continues_of_within {b : UInt8} {low high : Nat} (h : within low high b = true)
    (hl : 0x80 ≤ low) (hh : high ≤ 0xBF) : continues b = true := by
  simp only [continues, within, Bool.and_eq_true, decide_eq_true_eq] at h ⊢
  omega

private theorem frontTwo_continues (n : Nat) (rest : List UInt8) :
    ∀ b ∈ rest.take (frontTwo n rest).2, continues b = true := by
  unfold frontTwo
  split
  · next c rest =>
    split
    · next hc => simpa using hc
    · simp
  · simp

private theorem frontThree_continues (n : Nat) (rest : List UInt8) :
    ∀ b ∈ rest.take (frontThree n rest).2, continues b = true := by
  unfold frontThree
  split
  · next c rest =>
    generalize hw : within _ _ c = inside
    cases inside with
    | false => simp
    | true =>
      have hc := continues_of_within hw (low_three n) (high_three n)
      cases rest with
      | nil => simpa using hc
      | cons d rest => cases hd : continues d <;> simp [hc, hd]
  · simp

private theorem frontFour_continues (n : Nat) (rest : List UInt8) :
    ∀ b ∈ rest.take (frontFour n rest).2, continues b = true := by
  unfold frontFour
  split
  · next c rest =>
    generalize hw : within _ _ c = inside
    cases inside with
    | false => simp
    | true =>
      have hc := continues_of_within hw (low_four n) (high_four n)
      cases rest with
      | nil => simpa using hc
      | cons d rest =>
        cases hd : continues d with
        | false => simp [hc, hd]
        | true =>
          cases rest with
          | nil => simp [hc, hd]
          | cons e rest => cases he : continues e <;> simp [hc, hd, he]
  · simp

private theorem front_continues (b : UInt8) (rest : List UInt8) :
    ∀ c ∈ rest.take (front b rest).2, continues c = true := by
  unfold front
  dsimp only
  split
  · simp
  · split
    · simp
    · split
      · exact frontTwo_continues _ _
      · split
        · exact frontThree_continues _ _
        · split
          · exact frontFour_continues _ _
          · simp

private theorem front_of_continues {b : UInt8} (rest : List UInt8) (h : continues b = true) :
    front b rest = (none, 0) := by
  simp only [continues, within, Bool.and_eq_true, decide_eq_true_eq] at h
  rw [front, if_neg (by omega), if_pos (by omega)]

private theorem length_charsAfter_le {skip : Nat} {bytes : List UInt8}
    (h : ∀ b ∈ bytes.take skip, continues b = true) :
    (charsAfter skip bytes).length ≤ (chars bytes).length := by
  induction bytes generalizing skip with
  | nil => simp [charsAfter]
  | cons b rest ih =>
    cases skip with
    | zero => exact Nat.le_refl _
    | succ skip =>
      have hb : continues b = true := h b (by simp)
      have hrest := ih fun c hc ↦ h c (by
        rw [List.take_succ_cons]
        exact List.mem_cons_of_mem b hc)
      rw [charsAfter, chars, charsAfter, front_of_continues rest hb, List.length_cons]
      exact Nat.le_succ_of_le hrest

/-- A well-formed sequence has as many characters as parts. -/
theorem length_of_decode? {bytes : List UInt8} {cs : List Char} (h : decode? bytes = some cs) :
    cs.length = (chars bytes).length := by
  rw [decode?] at h
  generalize chars bytes = parts at h
  induction parts generalizing cs with
  | nil =>
    cases h
    rfl
  | cons part parts ih =>
    rw [List.mapM_cons] at h
    obtain ⟨c, -, hc⟩ := Option.bind_eq_some_iff.mp h
    obtain ⟨rest, hr, he⟩ := Option.bind_eq_some_iff.mp hc
    cases he
    rw [List.length_cons, List.length_cons, ih hr]

/-- One more byte gives at most one more character. -/
theorem length_chars_cons_le (b : UInt8) (bytes : List UInt8) :
    (chars (b :: bytes)).length ≤ (chars bytes).length + 1 := by
  rw [chars, charsAfter, List.length_cons]
  exact Nat.succ_le_succ (length_charsAfter_le (front_continues b bytes))

end ConnectionConfig.Utf8
