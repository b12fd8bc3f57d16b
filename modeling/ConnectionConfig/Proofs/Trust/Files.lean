import ConnectionConfig.Proofs.Outcomes
import ConnectionConfig.Trust.List

/-!
# Certificates from files

A file that has to hold certificates holds some, or something is wrong with it, and never both. The
file that a connection names has to hold certificates, and so does an installed bundle if it is
there at all.
-/

namespace ConnectionConfig.TrustList

/-- The file at a path can be read and is in order, and these are all of its certificates, as they
follow each other. There is at least one. -/
structure HoldsCertificates (files : FileSystem) (path : Path) (certificates : List Certificate) :
    Prop where
  in_order : ∃ bytes, files.read path = .ok bytes ∧
    Pem.certificates bytes = .ok (certificates.map Certificate.der)
  ne_nil : certificates ≠ []

/-- What is wrong with the file at a path if it has to hold certificates. -/
inductive HasFault (files : FileSystem) (path : Path) : BundleFault → Prop
  | unreadable {cause : FileError} (read : files.read path = .error cause) :
      HasFault files path (.unreadable cause)
  | malformed {bytes : List UInt8} {cause : Pem.Error} (read : files.read path = .ok bytes)
      (pem : Pem.certificates bytes = .error cause) : HasFault files path (.malformed cause)
  | noCertificates {bytes : List UInt8} (read : files.read path = .ok bytes)
      (pem : Pem.certificates bytes = .ok []) : HasFault files path .noCertificates

private theorem map_der_mk (ders : List (List UInt8)) :
    (ders.map Certificate.mk).map Certificate.der = ders := by
  rw [List.map_map]
  exact List.map_id ders

private theorem map_mk_der (certificates : List Certificate) :
    (certificates.map Certificate.der).map Certificate.mk = certificates := by
  rw [List.map_map]
  exact List.map_id certificates

/-- A file is read just when it holds certificates, and gives these. -/
theorem readBundle_eq_ok_iff {files : FileSystem} {path : Path}
    {certificates : List Certificate} :
    readBundle files path = .ok certificates ↔ HoldsCertificates files path certificates := by
  constructor
  · intro h
    rw [readBundle] at h
    split at h
    · cases h
    · next bytes hread =>
      split at h
      · cases h
      · cases h
      · next ders hne hpem =>
        cases h
        refine ⟨⟨bytes, hread, by rw [map_der_mk]; exact hpem⟩, fun hnil ↦ hne ?_⟩
        exact List.map_eq_nil_iff.mp hnil
  · rintro ⟨⟨bytes, hread, hpem⟩, hne⟩
    obtain ⟨c, rest, rfl⟩ := List.exists_cons_of_ne_nil hne
    rw [List.map_cons] at hpem
    simp only [readBundle, hread, hpem, List.map_cons, map_mk_der]

/-- A file is not read just when something is wrong with it, and the error says what, and where. -/
theorem readBundle_eq_error_iff {files : FileSystem} {path : Path} {e : ConnectionError} :
    readBundle files path = .error e ↔
      ∃ fault, HasFault files path fault ∧ e = .bundleNotLoaded path fault := by
  constructor
  · intro h
    rw [readBundle] at h
    split at h
    · next cause hread =>
      cases h
      exact ⟨_, .unreadable hread, rfl⟩
    · next bytes hread =>
      split at h
      · next cause hpem =>
        cases h
        exact ⟨_, .malformed hread hpem, rfl⟩
      · next hpem =>
        cases h
        exact ⟨_, .noCertificates hread hpem, rfl⟩
      · cases h
  · rintro ⟨fault, hfault, rfl⟩
    cases hfault with
    | unreadable hread => simp only [readBundle, hread]
    | malformed hread hpem => simp only [readBundle, hread, hpem]
    | noCertificates hread hpem => simp only [readBundle, hread, hpem]

/-- A file holds certificates just when nothing is wrong with it. -/
theorem exists_holdsCertificates_iff {files : FileSystem} {path : Path} :
    (∃ certificates, HoldsCertificates files path certificates) ↔
      ∀ fault, ¬ HasFault files path fault := by
  simp only [← readBundle_eq_ok_iff]
  constructor
  · rintro ⟨certificates, h⟩ fault hfault
    rw [readBundle_eq_error_iff.mpr ⟨fault, hfault, rfl⟩] at h
    cases h
  · intro h
    cases hread : readBundle files path with
    | ok certificates => exact ⟨certificates, rfl⟩
    | error e =>
      obtain ⟨fault, hfault, -⟩ := readBundle_eq_error_iff.mp hread
      exact absurd hfault (h fault)

/-- The certificates that come from the file that a connection names: none if it names none, or with
a blank name. -/
inductive IsFromCaFile (machine : Machine) (properties : PropertyMap) : List Certificate → Prop
  | unnamed (unset : properties.getNonBlank? Property.tlsCaFile.name = none) :
      IsFromCaFile machine properties []
  | named {reference : String} {certificates : List Certificate}
      (set : properties.getNonBlank? Property.tlsCaFile.name = some reference)
      (found : machine.files.contains (machine.locate reference) = true)
      (holds : HoldsCertificates machine.files (machine.locate reference) certificates) :
      IsFromCaFile machine properties certificates

/-- The file that a connection names adds its certificates, in their order. -/
theorem ofCaFile_eq_ok_iff {machine : Machine} {properties : PropertyMap}
    {entries : List (TrustSource × TrustAnchor)} :
    ofCaFile machine properties = .ok entries ↔
      ∃ certificates, IsFromCaFile machine properties certificates ∧
        ofCertificates .caFile certificates = entries := by
  constructor
  · intro h
    rw [ofCaFile] at h
    split at h
    · next hunset =>
      cases h
      exact ⟨[], .unnamed hunset, rfl⟩
    · next reference hset =>
      dsimp only at h
      split at h
      · next hfound =>
        obtain ⟨certificates, hread, he⟩ := map_eq_ok_iff.mp h
        exact ⟨certificates, .named hset hfound (readBundle_eq_ok_iff.mp hread), he⟩
      · cases h
  · rintro ⟨certificates, hfrom, rfl⟩
    cases hfrom with
    | unnamed hunset => simp only [ofCaFile, hunset, ofCertificates, List.map_nil]
    | named hset hfound hholds =>
      simp only [ofCaFile, hset, hfound, if_true, readBundle_eq_ok_iff.mpr hholds]
      rfl

/-- A file that is named adds something. -/
theorem IsFromCaFile.ne_nil_iff {machine : Machine} {properties : PropertyMap}
    {certificates : List Certificate} (h : IsFromCaFile machine properties certificates) :
    certificates ≠ [] ↔ (properties.getNonBlank? Property.tlsCaFile.name).isSome = true := by
  cases h with
  | unnamed hunset => simp [hunset]
  | named hset _ hholds => simp [hset, hholds.ne_nil]

/-- The certificates that come from a bundle that may be installed: none if it is not. -/
inductive IsFromBundle (machine : Machine) (name : String) : List Certificate → Prop
  | absent (missing : machine.files.contains (machine.locate name) = false) :
      IsFromBundle machine name []
  | present {certificates : List Certificate}
      (found : machine.files.contains (machine.locate name) = true)
      (holds : HoldsCertificates machine.files (machine.locate name) certificates) :
      IsFromBundle machine name certificates

/-- An installed bundle adds its certificates, in their order. -/
theorem ofInstalledBundle_eq_ok_iff {machine : Machine} {name : String}
    {entries : List (TrustSource × TrustAnchor)} :
    ofInstalledBundle machine name = .ok entries ↔
      ∃ certificates, IsFromBundle machine name certificates ∧
        ofCertificates (.installedBundle name) certificates = entries := by
  constructor
  · intro h
    rw [ofInstalledBundle] at h
    split at h
    · next hfound =>
      obtain ⟨certificates, hread, he⟩ := map_eq_ok_iff.mp h
      exact ⟨certificates, .present hfound (readBundle_eq_ok_iff.mp hread), he⟩
    · next hmissing =>
      cases h
      exact ⟨[], .absent (by simpa using hmissing), rfl⟩
  · rintro ⟨certificates, hfrom, rfl⟩
    cases hfrom with
    | absent hmissing =>
      simp only [ofInstalledBundle, hmissing, Bool.false_eq_true, if_false, ofCertificates,
        List.map_nil]
    | present hfound hholds =>
      simp only [ofInstalledBundle, hfound, if_true, readBundle_eq_ok_iff.mpr hholds]
      rfl

/-- A bundle adds something just when it is there. -/
theorem IsFromBundle.ne_nil_iff {machine : Machine} {name : String}
    {certificates : List Certificate} (h : IsFromBundle machine name certificates) :
    certificates ≠ [] ↔ machine.files.contains (machine.locate name) = true := by
  cases h with
  | absent hmissing => simp [hmissing]
  | present hfound hholds => simp [hfound, hholds.ne_nil]

end ConnectionConfig.TrustList
