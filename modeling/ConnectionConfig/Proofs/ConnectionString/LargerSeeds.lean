import ConnectionConfig.ConnectionString.Entry
import ConnectionConfig.Proofs.ConnectionString.Seeds
import ConnectionConfig.Proofs.Outcomes
import ConnectionConfig.Proofs.PropertyMap.Purposes

/-!
# Reading on top of more

Whether a connection string is in order does not depend on the seed, and a value of the seed that is
not blank serves a purpose as well as one from the connection string does. A connection string that
is accepted on top of a seed is therefore accepted on top of every extension of it.
-/

namespace ConnectionConfig.ConnectionString

open PropertyMap (IsExtension require_eq_ok_iff)

/-- A connection string is accepted for a purpose just when it is in order and all that the purpose
asks for has a value that is not blank. -/
theorem readFor_eq_ok_iff {purpose : Purpose} {scheme text : String} {options : Option String}
    {seed m : PropertyMap} :
    readFor purpose scheme options seed text = .ok m ↔
      read Schema.standard scheme options seed text = .ok m ∧
        ∀ p ∈ purpose.required, (m.getNonBlank? p.name).isSome = true := by
  rw [readFor, bind_eq_ok_iff]
  constructor
  · rintro ⟨found, hread, hrequire⟩
    obtain ⟨rfl, hall⟩ := require_eq_ok_iff.mp hrequire
    exact ⟨hread, hall⟩
  · rintro ⟨hread, hall⟩
    exact ⟨m, hread, require_eq_ok_iff.mpr ⟨rfl, hall⟩⟩

/-- A connection string that is accepted for a purpose on top of a seed is accepted on top of every
extension. Each key gets the same value, unless it has one in the extension alone, which it then
keeps. -/
theorem readFor_of_isExtension {purpose : Purpose} {scheme text : String} {options : Option String}
    {seed larger m : PropertyMap} (hlarger : IsExtension seed larger)
    (h : readFor purpose scheme options seed text = .ok m) :
    ∃ m', readFor purpose scheme options larger text = .ok m' ∧
      ∀ key, m'.get? key =
        if larger.contains key = true ∧ seed.contains key = false then larger.get? key
        else m.get? key := by
  obtain ⟨hread, hall⟩ := readFor_eq_ok_iff.mp h
  obtain ⟨outcome, houtcome⟩ := exists_read_eq Schema.standard scheme options text
  rw [houtcome, map_eq_ok_iff] at hread
  obtain ⟨entries, rfl, rfl⟩ := hread
  refine ⟨larger.offerAll entries, readFor_eq_ok_iff.mpr ⟨houtcome larger, fun p hp ↦ ?_⟩,
    hlarger.get?_offerAll entries⟩
  exact hlarger.isSome_getNonBlank?_offerAll (hall p hp)

/-- A host that comes in takes the place of the one in the connection string; a blank value of the
seed stays and is in the way of the same option. -/
theorem readFor_of_added_host :
    let seed := PropertyMap.ofList [("tlsCAFile", " "), ("user", "ann")]
    let larger := PropertyMap.ofList [("host", "h2:1"), ("user", "ann"), ("tlsCAFile", " ")]
    let text := "jdbc:documentdb://bob:pw@h1/db?tlsCAFile=a&tls=true"
    IsExtension seed larger ∧ ∃ m m', readFor .connection scheme (some "w=1") seed text = .ok m ∧
      readFor .connection scheme (some "w=1") larger text = .ok m' ∧
      m.host? = some "h1" ∧ m'.host? = some "h2:1" ∧ m'.user? = some "ann" ∧
      m'.tlsCaFile? = some " " ∧ m'.get? "tls" = some "true" ∧ m'.get? "w" = some "1" := by
  intro seed larger text
  let m := PropertyMap.ofList
    [("tlsCAFile", " "), ("user", "ann"), ("host", "h1"), ("password", "pw"), ("database", "db"),
      ("tls", "true"), ("w", "1")]
  have hlarger : IsExtension seed larger := by decide +kernel
  have hread : readFor .connection scheme (some "w=1") seed text = .ok m := by decide +kernel
  obtain ⟨m', hread', hget⟩ := readFor_of_isExtension hlarger hread
  exact ⟨hlarger, m, m', hread, hread', by decide +kernel, (hget _).trans (by decide +kernel),
    (hget _).trans (by decide +kernel), (hget _).trans (by decide +kernel),
    (hget _).trans (by decide +kernel), (hget _).trans (by decide +kernel)⟩

end ConnectionConfig.ConnectionString
