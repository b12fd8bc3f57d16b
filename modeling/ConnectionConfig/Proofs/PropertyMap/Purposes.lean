import ConnectionConfig.PropertyMap.Purpose
import ConnectionConfig.Proofs.PropertyMap.Offers

/-!
# Fitness for a purpose

A map is fit for a purpose just when each property that the purpose asks for has a value that is not
blank. It stays fit when more values come in that are not blank, whether or not they are in the way
of later offers.
-/

namespace ConnectionConfig.PropertyMap

/-- A key has a value that is not blank just when it has this value and the value is not blank. -/
theorem getNonBlank?_eq_some_iff {m : PropertyMap} {key value : String} :
    m.getNonBlank? key = some value ↔ m.get? key = some value ∧ Text.isBlank value = false := by
  rw [getNonBlank?, Option.filter_eq_some_iff, Bool.not_eq_true']

/-- A map is fit for a purpose, and then stays as it is, just when all that the purpose asks for has
a value that is not blank. -/
theorem require_eq_ok_iff {m m' : PropertyMap} {purpose : Purpose} :
    m.require purpose = .ok m' ↔
      m' = m ∧ ∀ p ∈ purpose.required, (m.getNonBlank? p.name).isSome = true := by
  rw [require, missing?]
  cases hfind : purpose.required.find? fun p ↦ (m.getNonBlank? p.name).isNone with
  | some p =>
    have hnone := List.find?_some hfind
    rw [Option.isNone_iff_eq_none] at hnone
    constructor
    · intro h
      cases h
    · rintro ⟨-, hall⟩
      have hsome := hall p (List.mem_of_find?_eq_some hfind)
      rw [hnone] at hsome
      cases hsome
  | none =>
    have hall : ∀ p ∈ purpose.required, (m.getNonBlank? p.name).isSome = true := by
      simpa [Option.isSome_iff_ne_none] using List.find?_eq_none.mp hfind
    constructor
    · intro h
      cases h
      exact ⟨rfl, hall⟩
    · rintro ⟨rfl, -⟩
      rfl

/-- `larger` has all values of `seed`, and no blank values under other keys. -/
structure IsExtension (seed larger : PropertyMap) : Prop where
  kept {key value : String} (h : seed.get? key = some value) : larger.get? key = some value
  not_blank {key value : String} (hseed : seed.get? key = none)
    (h : larger.get? key = some value) : Text.isBlank value = false

instance (seed larger : PropertyMap) : Decidable (IsExtension seed larger) :=
  decidable_of_iff ((∀ e ∈ seed.toList, larger.get? e.1 = some e.2) ∧
      ∀ e ∈ larger.toList, seed.get? e.1 = none → Text.isBlank e.2 = false) (by
    constructor
    · rintro ⟨hkept, hblank⟩
      exact ⟨fun h ↦ hkept _ (get?_eq_some_iff.mp h),
        fun hseed h ↦ hblank _ (get?_eq_some_iff.mp h) hseed⟩
    · intro h
      exact ⟨fun e he ↦ h.kept (get?_eq_some_iff.mpr he),
        fun e he hseed ↦ h.not_blank hseed (get?_eq_some_iff.mpr he)⟩)

/-- Offers to an extension give each key the value that they give it in the seed, unless it has one
in the extension alone. -/
theorem IsExtension.get?_offerAll {seed larger : PropertyMap} (h : IsExtension seed larger)
    (entries : List (String × String)) (key : String) :
    (larger.offerAll entries).get? key =
      if larger.contains key = true ∧ seed.contains key = false then larger.get? key
      else (seed.offerAll entries).get? key := by
  rw [PropertyMap.get?_offerAll, PropertyMap.get?_offerAll]
  have hlarger := larger.get?_isSome_iff key
  have hseed := seed.get?_isSome_iff key
  cases hs : seed.get? key with
  | some value =>
    rw [hs] at hseed
    rw [h.kept hs, if_neg (by simp [hseed.mp rfl])]
  | none =>
    have hfresh : seed.contains key = false := by simpa [hs] using hseed
    cases hl : larger.get? key with
    | some value =>
      rw [hl] at hlarger
      rw [if_pos ⟨hlarger.mp rfl, hfresh⟩]
      rfl
    | none =>
      have habsent : larger.contains key = false := by simpa [hl] using hlarger
      rw [if_neg (by simp [habsent])]

/-- A key with a value that is not blank in the seed after some offers has one in an extension after
the same offers. -/
theorem IsExtension.isSome_getNonBlank?_offerAll {seed larger : PropertyMap}
    (h : IsExtension seed larger) {entries : List (String × String)} {key : String}
    (hsome : ((seed.offerAll entries).getNonBlank? key).isSome = true) :
    ((larger.offerAll entries).getNonBlank? key).isSome = true := by
  have hget := h.get?_offerAll entries key
  split at hget
  · next hadded =>
    obtain ⟨value, hvalue⟩ :=
      Option.isSome_iff_exists.mp ((larger.get?_isSome_iff key).mpr hadded.1)
    have hnone : seed.get? key = none := by
      rw [← Option.not_isSome_iff_eq_none, get?_isSome_iff]
      simp [hadded.2]
    have hfound := getNonBlank?_eq_some_iff.mpr ⟨hget.trans hvalue, h.not_blank hnone hvalue⟩
    rw [hfound]
    rfl
  · rwa [getNonBlank?, hget, ← getNonBlank?]

end ConnectionConfig.PropertyMap
