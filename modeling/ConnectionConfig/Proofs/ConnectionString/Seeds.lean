import ConnectionConfig.ConnectionString.Reader
import ConnectionConfig.Proofs.PropertyMap.Offers

/-!
# Reading on top of a seed

What a connection string offers does not depend on the map that takes it. Reading on top of a seed
therefore fails just when reading by itself does, and otherwise is a left-biased merge.
-/

namespace ConnectionConfig.ConnectionString

open PropertyMap (empty IsMerge isMerge_offerAll)

/-- A text without the scheme is refused. -/
theorem read_of_missing_scheme {scheme text : String} (schema : Schema) (options : Option String)
    (seed : PropertyMap) (h : scheme.toList.isPrefixOf? text.toList = none) :
    read schema scheme options seed text = .error (.missingScheme scheme) := by
  rw [read, h]

/-- White space after the scheme leaves the seed as it is. -/
theorem read_of_blank {scheme text : String} {remainder : List Char} (schema : Schema)
    (options : Option String) (seed : PropertyMap)
    (h : scheme.toList.isPrefixOf? text.toList = some remainder)
    (hb : remainder.all Text.isSpace = true) :
    read schema scheme options seed text = .ok seed := by
  rw [read, h]
  exact if_pos hb

/-- Anything else after the scheme makes offers to the seed. -/
theorem read_of_not_blank {scheme text : String} {remainder : List Char} (schema : Schema)
    (options : Option String) (seed : PropertyMap)
    (h : scheme.toList.isPrefixOf? text.toList = some remainder)
    (hb : remainder.all Text.isSpace = false) :
    read schema scheme options seed text =
      (offers schema options remainder).map seed.offerAll := by
  rw [read, h]
  exact if_neg (by simp [hb])

/-- Whether reading fails, and what is offered if not, does not depend on the map that takes it. -/
theorem exists_read_eq (schema : Schema) (scheme : String) (options : Option String)
    (text : String) :
    ∃ outcome : Except ConnectionError (List (String × String)),
      ∀ seed, read schema scheme options seed text = outcome.map seed.offerAll := by
  cases hp : scheme.toList.isPrefixOf? text.toList with
  | none => exact ⟨.error (.missingScheme scheme), fun _ ↦ read_of_missing_scheme _ _ _ hp⟩
  | some remainder =>
    cases hb : remainder.all Text.isSpace with
    | true => exact ⟨.ok [], fun _ ↦ read_of_blank _ _ _ hp hb⟩
    | false => exact ⟨offers schema options remainder, fun _ ↦ read_of_not_blank _ _ _ hp hb⟩

/-- A map that was read on its own holds no blank values. -/
theorem getNonBlank?_of_read {schema : Schema} {scheme : String} {options : Option String}
    {text : String} {m : PropertyMap} (h : read schema scheme options empty text = .ok m)
    (key : String) : m.getNonBlank? key = m.get? key := by
  obtain ⟨outcome, hread⟩ := exists_read_eq schema scheme options text
  rw [hread] at h
  cases outcome with
  | error e => cases h
  | ok entries =>
    cases h
    rw [PropertyMap.getNonBlank?]
    cases hg : (empty.offerAll entries).get? key with
    | none => rfl
    | some value =>
      have hb := (PropertyMap.mem_of_get?_offerAll hg).2
      rw [Option.filter_some, if_pos (by simp [hb])]

/-- Reading on top of a seed fails just when reading by itself fails, with the same error. It
succeeds just when reading by itself succeeds, and then holds the entries of the seed, followed by
what is read by itself under keys that the seed does not have. -/
theorem read_eq_merge_seed (schema : Schema) (scheme : String) (options : Option String)
    (seed : PropertyMap) (text : String) :
    (∀ e, read schema scheme options seed text = .error e ↔
      read schema scheme options empty text = .error e) ∧
    ∀ m, read schema scheme options seed text = .ok m ↔
      ∃ fresh, read schema scheme options empty text = .ok fresh ∧
        m.toList = seed.toList ++ fresh.toList.filter fun e ↦ !seed.contains e.1 := by
  obtain ⟨outcome, hread⟩ := exists_read_eq schema scheme options text
  rw [hread seed, hread empty]
  cases outcome with
  | error e => simp [Except.map]
  | ok entries =>
    have hm : IsMerge seed (empty.offerAll entries) (seed.offerAll entries) :=
      isMerge_offerAll seed entries
    refine ⟨by simp [Except.map], fun m ↦ ?_⟩
    constructor
    · intro h
      cases h
      exact ⟨_, rfl, hm⟩
    · rintro ⟨_, h, hm'⟩
      cases h
      exact congrArg Except.ok (PropertyMap.toList_inj.mp (hm.trans hm'.symm))

end ConnectionConfig.ConnectionString
