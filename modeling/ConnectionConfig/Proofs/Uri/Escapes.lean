import ConnectionConfig.Uri.Percent
import ConnectionConfig.Proofs.Text.Ascii
import ConnectionConfig.Proofs.Text.Utf8

/-!
# Escapes are read back

Where the percent sign itself is escaped, reading gives the bytes of the text back. Where it is not,
a text can hold escapes of its own, and escaping more characters does not change what it reads as.
-/

namespace ConnectionConfig.Percent

private theorem hexDigit?_digit : ∀ n < 16, hexDigit? (Nat.digitChar n).toUpper = some n := by
  decide

/-- An escape stands for its byte. -/
theorem decode_escape (b : UInt8) (rest : List Char) :
    decode (escape b ++ rest) = b :: decode rest := by
  have hb := b.toNat_lt
  rw [escape, List.cons_append, List.cons_append, List.cons_append, List.nil_append, decode,
    hexDigit?_digit _ (by omega), hexDigit?_digit _ (by omega)]
  dsimp only
  rw [show 16 * (b.toNat / 16) + b.toNat % 16 = b.toNat by omega, UInt8.ofNat_toNat]

/-- The escapes of bytes stand for them. -/
theorem decode_flatMap_escape (bytes : List UInt8) (rest : List Char) :
    decode (bytes.flatMap escape ++ rest) = bytes ++ decode rest := by
  induction bytes with
  | nil => rfl
  | cons b bytes ih =>
    rw [List.flatMap_cons, List.append_assoc, decode_escape, ih, List.cons_append]

/-- A text is escaped character by character. -/
theorem encode_cons (reserved : Char → Bool) (c : Char) (cs : List Char) :
    encode reserved (c :: cs) =
      (if reserved c then (String.utf8EncodeChar c).flatMap escape else [c]) ++
        encode reserved cs := by
  simp [encode]

/-- A text is escaped part by part. -/
theorem encode_append (reserved : Char → Bool) (a b : List Char) :
    encode reserved (a ++ b) = encode reserved a ++ encode reserved b := by
  simp [encode]

/-- Escaping leaves nothing of no text but the empty one. -/
theorem encode_ne_nil (reserved : Char → Bool) {cs : List Char} (h : cs ≠ []) :
    encode reserved cs ≠ [] := by
  cases cs with
  | nil => exact absurd rfl h
  | cons c cs =>
    rw [encode_cons]
    split
    · obtain ⟨b, bytes, hb⟩ := List.exists_cons_of_ne_nil (String.utf8EncodeChar_ne_nil (c := c))
      simp [hb, escape]
    · simp

/-- A text without characters to escape stays as it is. -/
theorem encode_eq_self {reserved : Char → Bool} {cs : List Char}
    (h : ∀ c ∈ cs, reserved c = false) : encode reserved cs = cs := by
  induction cs with
  | nil => rfl
  | cons c cs ih =>
    rw [encode_cons, ih fun a ha ↦ h a (List.mem_cons_of_mem _ ha), h c List.mem_cons_self]
    rfl

/-- Where the percent sign is escaped, a text reads back as its bytes. -/
theorem decode_encode_append {reserved : Char → Bool} (h : reserved '%' = true)
    (cs rest : List Char) :
    decode (encode reserved cs ++ rest) = Utf8.encode cs ++ decode rest := by
  induction cs with
  | nil => rfl
  | cons c cs ih =>
    rw [encode_cons, List.append_assoc]
    split
    · rw [decode_flatMap_escape, ih, Utf8.encode, Utf8.encode, List.flatMap_cons, List.append_assoc]
    · next hc =>
      have hne : c ≠ '%' := fun e ↦ hc (e ▸ h)
      rw [List.cons_append, List.nil_append, decode_cons_of_ne hne, ih, Utf8.encode, Utf8.encode,
        List.flatMap_cons, List.append_assoc]

/-- Where the percent sign is escaped, a text reads back as its bytes. -/
theorem decode_encode {reserved : Char → Bool} (h : reserved '%' = true) (cs : List Char) :
    decode (encode reserved cs) = Utf8.encode cs := by
  have := decode_encode_append h cs []
  simpa [decode] using this

/-- A percent sign before the text starts an escape: two digits follow. -/
def OpensEscape (cs : List Char) : Prop :=
  ∃ a b rest, cs = a :: b :: rest ∧ (hexDigit? a).isSome = true ∧ (hexDigit? b).isSome = true

/-- A percent sign that two digits do not follow stands for itself. -/
theorem decode_percent {cs : List Char} (h : ¬ OpensEscape cs) :
    decode ('%' :: cs) = String.utf8EncodeChar '%' ++ decode cs := by
  match cs with
  | [] => rfl
  | [c] => rw [decode]; simp
  | a :: b :: rest =>
    rw [decode]
    split
    · next hh hl ha hb => exact absurd ⟨a, b, rest, rfl, by simp [ha], by simp [hb]⟩ h
    · rfl

/-- Two digits after a percent sign stand for one byte. -/
theorem decode_percent_digits {a b : Char} {h l : Nat} (ha : hexDigit? a = some h)
    (hb : hexDigit? b = some l) (rest : List Char) :
    decode ('%' :: a :: b :: rest) = UInt8.ofNat (16 * h + l) :: decode rest := by
  rw [decode, ha, hb]

/-- A text is followed from escape to escape: it is empty, or starts with an escape, with a percent
sign that starts none, or with another character. -/
@[elab_as_elim]
theorem escape_induction {motive : List Char → Prop} (cs : List Char) (nil : motive [])
    (escape : ∀ a b h l rest, hexDigit? a = some h → hexDigit? b = some l → motive rest →
      motive ('%' :: a :: b :: rest))
    (percent : ∀ rest, ¬ OpensEscape rest → motive rest → motive ('%' :: rest))
    (char : ∀ c rest, c ≠ '%' → motive rest → motive (c :: rest)) : motive cs := by
  induction hn : cs.length using Nat.strongRecOn generalizing cs with
  | ind n ih =>
    subst hn
    cases cs with
    | nil => exact nil
    | cons c rest =>
      by_cases hc : c = '%'
      · subst hc
        by_cases ho : OpensEscape rest
        · obtain ⟨a, b, rest, rfl, ha, hb⟩ := ho
          obtain ⟨h, ha⟩ := Option.isSome_iff_exists.mp ha
          obtain ⟨l, hb⟩ := Option.isSome_iff_exists.mp hb
          refine escape a b h l rest ha hb (ih _ ?_ rest rfl)
          simp only [List.length_cons]
          omega
        · exact percent rest ho (ih _ (by simp) rest rfl)
      · exact char c rest hc (ih _ (by simp) rest rfl)

/-- Escaping leaves escapes alone: neither the percent sign nor a digit is escaped. -/
def KeepsEscapes (reserved : Char → Bool) : Prop :=
  reserved '%' = false ∧ ∀ c, (hexDigit? c).isSome = true → reserved c = false

private theorem head?_encode_cons (reserved : Char → Bool) (c : Char) (cs : List Char) :
    (encode reserved (c :: cs)).head? = some (if reserved c = true then '%' else c) := by
  rw [encode_cons]
  split
  · obtain ⟨b, bytes, hb⟩ := List.exists_cons_of_ne_nil (String.utf8EncodeChar_ne_nil (c := c))
    simp [hb, escape]
  · simp

private theorem head_of_encode_eq_cons {reserved : Char → Bool} {cs rest : List Char} {a : Char}
    (h : encode reserved cs = a :: rest) (ha : (hexDigit? a).isSome = true) :
    ∃ cs', cs = a :: cs' ∧ encode reserved cs' = rest := by
  cases cs with
  | nil => cases h
  | cons c cs =>
    have hh := head?_encode_cons reserved c cs
    rw [h, List.head?_cons, Option.some.injEq] at hh
    rw [encode_cons] at h
    split at h
    · next hc =>
      rw [if_pos hc] at hh
      rw [hh] at ha
      cases ha
    · simp only [List.cons_append, List.nil_append, List.cons.injEq] at h
      exact ⟨cs, by rw [h.1], h.2⟩

private theorem opensEscape_of_encode {reserved : Char → Bool} {cs : List Char}
    (h : OpensEscape (encode reserved cs)) : OpensEscape cs := by
  obtain ⟨a, b, rest, he, ha, hb⟩ := h
  obtain ⟨cs', rfl, he'⟩ := head_of_encode_eq_cons he ha
  obtain ⟨cs'', rfl, -⟩ := head_of_encode_eq_cons he' hb
  exact ⟨a, b, cs'', rfl, ha, hb⟩

private theorem encode_cons_of_not {reserved : Char → Bool} {c : Char} (h : reserved c = false)
    (cs : List Char) : encode reserved (c :: cs) = c :: encode reserved cs := by
  simp [encode_cons, h]

/-- Escaping that leaves escapes alone does not change what a text reads as. -/
theorem decode_encode_of_keepsEscapes {reserved : Char → Bool} (hk : KeepsEscapes reserved)
    (cs : List Char) : decode (encode reserved cs) = decode cs := by
  induction cs using escape_induction with
  | nil => rfl
  | escape a b h l rest ha hb ih =>
    rw [encode_cons_of_not hk.1, encode_cons_of_not (hk.2 a (by simp [ha])),
      encode_cons_of_not (hk.2 b (by simp [hb])), decode_percent_digits ha hb,
      decode_percent_digits ha hb, ih]
  | percent rest ho ih =>
    rw [encode_cons_of_not hk.1, decode_percent ho,
      decode_percent fun h ↦ ho (opensEscape_of_encode h), ih]
  | char c rest hc ih =>
    rw [encode_cons, decode_cons_of_ne hc]
    split
    · rw [decode_flatMap_escape, ih]
    · rw [List.cons_append, List.nil_append, decode_cons_of_ne hc, ih]

private theorem toNat_lt_of_hexDigit? {c : Char} (h : (hexDigit? c).isSome = true) :
    c.toNat < 0x80 := by
  unfold hexDigit? at h
  split at h
  · next hc => exact Text.toNat_lt_of_isDigit hc
  · split at h
    · next hc =>
      exact Text.toNat_lt_of_le (of_decide_eq_true (Bool.and_eq_true_iff.mp hc).2) (by decide)
    · split at h
      · next hc =>
        exact Text.toNat_lt_of_le (of_decide_eq_true (Bool.and_eq_true_iff.mp hc).2) (by decide)
      · cases h

/-- Escaping leaves escapes alone if it leaves the digits of ASCII alone. -/
theorem KeepsEscapes.of_ascii {reserved : Char → Bool} (hp : reserved '%' = false)
    (h : ∀ n < 0x80, (hexDigit? (Char.ofNat n)).isSome = true → reserved (Char.ofNat n) = false) :
    KeepsEscapes reserved :=
  ⟨hp, fun _ hc ↦ Text.forall_ascii (p := fun c ↦ (hexDigit? c).isSome = true → reserved c = false)
    h (toNat_lt_of_hexDigit? hc) hc⟩

/-- Escaping in the user information leaves escapes alone. -/
theorem keepsEscapes_inUserInfo : KeepsEscapes inUserInfo :=
  .of_ascii (by decide) (by decide +kernel)

/-- Reading can be cut before a character that is no digit. -/
theorem decode_append (cs : List Char) {s : List Char}
    (hs : ∀ c ∈ s.head?, hexDigit? c = none) : decode (cs ++ s) = decode cs ++ decode s := by
  induction cs using escape_induction with
  | nil => rfl
  | escape a b h l rest ha hb ih =>
    rw [List.cons_append, List.cons_append, List.cons_append, decode_percent_digits ha hb,
      decode_percent_digits ha hb, ih, List.cons_append]
  | percent rest ho ih =>
    have ho' : ¬ OpensEscape (rest ++ s) := by
      rintro ⟨a, b, r, he, ha, hb⟩
      match rest, he with
      | [], he =>
        have := hs a (by rw [show s = a :: b :: r from he]; rfl)
        simp [this] at ha
      | [_], he =>
        simp only [List.cons_append, List.nil_append, List.cons.injEq] at he
        have := hs b (by rw [he.2]; rfl)
        simp [this] at hb
      | x :: y :: rest, he =>
        simp only [List.cons_append, List.cons.injEq] at he
        exact ho ⟨x, y, rest, rfl, by rw [he.1]; exact ha, by rw [he.2.1]; exact hb⟩
    rw [List.cons_append, decode_percent ho, decode_percent ho', ih, List.append_assoc]
  | char c rest hc ih =>
    rw [List.cons_append, decode_cons_of_ne hc, decode_cons_of_ne hc, ih, List.append_assoc]

/-- Whether a character can stand in an escape: a percent sign, a digit or a capital from A to F. -/
def isEscapeChar (c : Char) : Bool := c = '%' || c.isDigit || ('A' ≤ c && c ≤ 'F')

private theorem isEscapeChar_digit : ∀ n < 16, isEscapeChar (Nat.digitChar n).toUpper = true := by
  decide

/-- An escape holds such characters only. -/
theorem isEscapeChar_of_mem_escape {b : UInt8} {c : Char} (h : c ∈ escape b) :
    isEscapeChar c = true := by
  have hb := b.toNat_lt
  simp only [escape, List.mem_cons, List.not_mem_nil, or_false] at h
  rcases h with rfl | rfl | rfl
  · rfl
  · exact isEscapeChar_digit _ (by omega)
  · exact isEscapeChar_digit _ (by omega)

/-- A character of an escape is one of ASCII. -/
theorem toNat_lt_of_isEscapeChar {c : Char} (h : isEscapeChar c = true) : c.toNat < 0x80 := by
  simp only [isEscapeChar, Bool.or_eq_true, decide_eq_true_eq, Bool.and_eq_true] at h
  rcases h with (rfl | hd) | ⟨-, hu⟩
  · decide
  · exact Text.toNat_lt_of_isDigit hd
  · exact Text.toNat_lt_of_le hu (by decide)

/-- An escaped text holds characters that stand in escapes and characters that are not escaped. -/
theorem mem_encode {reserved : Char → Bool} {cs : List Char} {c : Char}
    (h : c ∈ encode reserved cs) :
    isEscapeChar c = true ∨ c ∈ cs ∧ reserved c = false := by
  obtain ⟨a, ha, hc⟩ := List.mem_flatMap.mp h
  split at hc
  · obtain ⟨b, -, hb⟩ := List.mem_flatMap.mp hc
    exact .inl (isEscapeChar_of_mem_escape hb)
  · next hr =>
    rw [List.mem_singleton.mp hc]
    exact .inr ⟨ha, by simpa using hr⟩

/-! ## Option values -/

private theorem encodeForm_cons (c : Char) (cs : List Char) :
    encodeForm (c :: cs) =
      (if c = ' ' then ['+'] else encode inForm [c]) ++ encodeForm cs := by
  simp [encodeForm]

/-- The text with a space for each plus sign. -/
def plusToSpace (cs : List Char) : List Char := cs.map fun c ↦ if c = '+' then ' ' else c

/-- Without plus signs a text stays as it is. -/
theorem plusToSpace_eq_self {cs : List Char} (h : ∀ c ∈ cs, c ≠ '+') : plusToSpace cs = cs := by
  calc cs.map (fun c ↦ if c = '+' then ' ' else c)
      = cs.map id := List.map_congr_left fun c hc ↦ if_neg (h c hc)
    _ = cs := List.map_id cs

private theorem plus_ne_of_mem_encode {c a : Char} (h : a ∈ encode inForm [c]) : a ≠ '+' := by
  rintro rfl
  rcases mem_encode h with he | ⟨-, hr⟩
  · cases he
  · cases hr

/-- An option value reads back as the text that was written. -/
theorem decodeForm_encodeForm (cs : List Char) : decodeForm (encodeForm cs) = cs := by
  have hd : decode (plusToSpace (encodeForm cs)) = Utf8.encode cs := by
    induction cs with
    | nil => rfl
    | cons c cs ih =>
      rw [encodeForm_cons, plusToSpace, List.map_append, ← plusToSpace, ← plusToSpace]
      split
      · next hc =>
        rw [hc, plusToSpace, List.map_cons, List.map_nil, if_pos rfl, List.cons_append,
          List.nil_append, decode_cons_of_ne (by decide), ih, Utf8.encode, Utf8.encode,
          List.flatMap_cons]
      · rw [plusToSpace_eq_self fun _ ↦ plus_ne_of_mem_encode, decode_encode_append rfl, ih,
          Utf8.encode, Utf8.encode, Utf8.encode, List.flatMap_cons, List.flatMap_cons,
          List.flatMap_nil, List.append_nil]
  rw [decodeForm, ← plusToSpace, hd, Utf8.decodeTolerant_encode]

/-! ## Plain characters -/

/-- Whether a character can stand in an escaped component or option value. -/
def isPlain (c : Char) : Bool := c.isAlphanum || "%-._~*+".toList.contains c

private theorem toNat_lt_of_isPlain {c : Char} (h : isPlain c = true) : c.toNat < 0x80 := by
  rcases Bool.or_eq_true_iff.mp h with ha | hm
  · exact Text.toNat_lt_of_isAlphanum ha
  · have hall : ∀ c ∈ "%-._~*+".toList, c.toNat < 0x80 := Text.forall_mem_of_all (by decide)
    exact hall c (by simpa using hm)

/-- What is checked of the plain characters of ASCII holds of all plain characters. -/
theorem forall_isPlain {p : Char → Prop}
    (h : ∀ n < 0x80, isPlain (Char.ofNat n) = true → p (Char.ofNat n)) {c : Char}
    (hc : isPlain c = true) : p c :=
  Text.forall_ascii (p := fun c ↦ isPlain c = true → p c) h (toNat_lt_of_isPlain hc) hc

private theorem isPlain_of_isAlphanum {c : Char} (h : c.isAlphanum = true) : isPlain c = true := by
  rw [isPlain, h, Bool.true_or]

private theorem isPlain_of_isEscapeChar {c : Char} (h : isEscapeChar c = true) :
    isPlain c = true :=
  Text.forall_ascii (p := fun c ↦ isEscapeChar c = true → isPlain c = true) (by decide +kernel)
    (toNat_lt_of_isEscapeChar h) h

private theorem isPlain_of_not_reserved {c : Char} {marks : List Char}
    (hmarks : marks.all isPlain = true) (h : (!(c.isAlphanum || marks.contains c)) = false) :
    isPlain c = true := by
  rcases Bool.or_eq_true_iff.mp ((Bool.not_eq_eq_eq_not).mp h) with ha | hm
  · exact isPlain_of_isAlphanum ha
  · exact List.all_eq_true.mp hmarks c (List.contains_iff_mem.mp hm)

/-- Escaping keeps parts apart: it leaves plain characters only, and escapes the two signs that mean
something else where a text is read. -/
structure KeepsApart (reserved : Char → Bool) : Prop where
  percent : reserved '%' = true
  plus : reserved '+' = true
  isPlain : ∀ c, reserved c = false → isPlain c = true

/-- Components are kept apart. -/
theorem keepsApart_inComponent : KeepsApart inComponent :=
  ⟨by decide, by decide, fun _ ↦ isPlain_of_not_reserved (by decide)⟩

/-- Option values are kept apart. -/
theorem keepsApart_inForm : KeepsApart inForm :=
  ⟨by decide, by decide, fun _ ↦ isPlain_of_not_reserved (by decide)⟩

namespace KeepsApart

variable {reserved : Char → Bool} {cs : List Char}

/-- A text that is escaped is plain. -/
theorem isPlain_of_mem_encode (h : KeepsApart reserved) :
    ∀ c ∈ encode reserved cs, Percent.isPlain c = true := by
  intro c hc
  rcases mem_encode hc with he | ⟨-, hr⟩
  · exact isPlain_of_isEscapeChar he
  · exact h.isPlain c hr

/-- A text that is escaped reads back as an option value, too. -/
theorem decodeForm_encode (h : KeepsApart reserved) : decodeForm (encode reserved cs) = cs := by
  have hplus : ∀ c ∈ encode reserved cs, c ≠ '+' := by
    rintro c hc rfl
    rcases mem_encode hc with he | ⟨-, hr⟩
    · cases he
    · rw [h.plus] at hr
      cases hr
  rw [decodeForm, ← plusToSpace, plusToSpace_eq_self hplus, decode_encode h.percent,
    Utf8.decodeTolerant_encode]

end KeepsApart

/-- An escaped component is plain. -/
theorem isPlain_of_mem_encode {cs : List Char} :
    ∀ c ∈ encode inComponent cs, isPlain c = true :=
  keepsApart_inComponent.isPlain_of_mem_encode

/-- An option value is plain. -/
theorem isPlain_of_mem_encodeForm {cs : List Char} : ∀ c ∈ encodeForm cs, isPlain c = true := by
  intro c hc
  obtain ⟨a, -, ha⟩ := List.mem_flatMap.mp hc
  split at ha
  · rw [List.mem_singleton.mp ha]
    rfl
  · exact keepsApart_inForm.isPlain_of_mem_encode c ha

private theorem inUserInfo_of_isPlain {c : Char} (h : isPlain c = true) : inUserInfo c = false :=
  forall_isPlain (p := fun c ↦ inUserInfo c = false) (by decide +kernel) h

/-- A plain text is not escaped in the user information. -/
theorem encode_inUserInfo_of_isPlain {cs : List Char} (h : ∀ c ∈ cs, isPlain c = true) :
    encode inUserInfo cs = cs :=
  encode_eq_self fun c hc ↦ inUserInfo_of_isPlain (h c hc)

/-- A plain text is not escaped in a path, where fewer characters are. -/
theorem encode_inPath_of_isPlain {cs : List Char} (h : ∀ c ∈ cs, isPlain c = true) :
    encode inPath cs = cs :=
  encode_eq_self fun c hc ↦ (Bool.or_eq_false_iff.mp (inUserInfo_of_isPlain (h c hc))).1

end ConnectionConfig.Percent
