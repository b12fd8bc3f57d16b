/-!
# Items in DER

An item is a tag, the length of its contents and the contents. The length has one form only, the
shortest, and stays below 65535; tags of more than one byte are refused. `items?` takes a sequence
of bytes apart without remainder, so that a rule on a structure is a rule on lists of items.
-/

namespace ConnectionConfig.Der

/-- A tag with contents. -/
structure Item where
  tag : UInt8
  contents : List UInt8
  deriving DecidableEq

/-- The number at the start of a sequence of bytes that says how long the contents are, and the
bytes after it. -/
def readLength? : List UInt8 → Option (Nat × List UInt8)
  | [] => none
  | first :: rest =>
    if first.toNat < 0x80 then some (first.toNat, rest)
    else if first.toNat = 0x81 then
      match rest with
      | a :: rest => if a.toNat < 0x80 then none else some (a.toNat, rest)
      | [] => none
    else if first.toNat = 0x82 then
      match rest with
      | a :: b :: rest =>
        let n := 256 * a.toNat + b.toNat
        if n < 0x100 || 0xFFFF ≤ n then none else some (n, rest)
      | _ => none
    else none

/-- The item at the start of a sequence of bytes, and the bytes after it. -/
def readItem? : List UInt8 → Option (Item × List UInt8)
  | [] => none
  | tag :: rest =>
    if tag.toNat % 32 = 31 then none
    else
      match readLength? rest with
      | none => none
      | some (n, rest) => if rest.length < n then none else some (⟨tag, rest.take n⟩, rest.drop n)

private theorem length_readLength? {bytes rest : List UInt8} {n : Nat}
    (h : readLength? bytes = some (n, rest)) : rest.length < bytes.length := by
  unfold readLength? at h
  split at h
  · cases h
  · split at h
    · simp only [Option.some.injEq, Prod.mk.injEq] at h
      simp [← h.2]
    · split at h
      · split at h
        · split at h
          · cases h
          · simp only [Option.some.injEq, Prod.mk.injEq] at h
            simp only [← h.2, List.length_cons]
            omega
        · cases h
      · split at h
        · split at h
          · dsimp only at h
            split at h
            · cases h
            · simp only [Option.some.injEq, Prod.mk.injEq] at h
              simp only [← h.2, List.length_cons]
              omega
          · cases h
        · cases h

/-- Reading an item leaves fewer bytes. -/
theorem length_readItem? {bytes rest : List UInt8} {item : Item}
    (h : readItem? bytes = some (item, rest)) : rest.length < bytes.length := by
  unfold readItem? at h
  split at h
  · cases h
  · split at h
    · cases h
    · split at h
      · cases h
      · next hn =>
        split at h
        · cases h
        · simp only [Option.some.injEq, Prod.mk.injEq] at h
          have hlt := length_readLength? hn
          simp only [← h.2, List.length_drop, List.length_cons]
          omega

/-- The items that make up a sequence of bytes. -/
def items? (bytes : List UInt8) : Option (List Item) :=
  if bytes.isEmpty then some []
  else
    match _h : readItem? bytes with
    | none => none
    | some (item, rest) => (items? rest).map (item :: ·)
termination_by bytes.length
decreasing_by exact length_readItem? (by assumption)

end ConnectionConfig.Der
