import ConnectionConfig.Files.FileTree
import ConnectionConfig.Proofs.Trust.Files

/-!
# Why there is no trust list

The file that a connection names has to exist. It and the bundles that are installed are then read
in turn, and the first one with something wrong decides the error. Nothing else makes a trust list
fail: not a bundle that is not installed, not a trust store that cannot be read, and no other
property.
-/

namespace ConnectionConfig.TrustList

/-- The first of some files with something wrong, and what is wrong with it; nothing is wrong with
the files before it. -/
inductive IsFirstFault (files : FileSystem) : List Path → Path → BundleFault → Prop
  | here {path : Path} {later : List Path} {fault : BundleFault}
      (wrong : HasFault files path fault) : IsFirstFault files (path :: later) path fault
  | there {first path : Path} {later : List Path} {fault : BundleFault}
      (sound : ∀ other, ¬ HasFault files first other)
      (wrong : IsFirstFault files later path fault) :
      IsFirstFault files (first :: later) path fault

/-- There is a first file with something wrong just when there is one at all. -/
theorem exists_isFirstFault_iff {files : FileSystem} {paths : List Path} :
    (∃ path fault, IsFirstFault files paths path fault) ↔
      ∃ path ∈ paths, ∃ fault, HasFault files path fault := by
  induction paths with
  | nil =>
    constructor
    · rintro ⟨_, _, h⟩
      cases h
    · rintro ⟨_, hm, _⟩
      cases hm
  | cons first later ih =>
    rw [List.exists_mem_cons_iff, ← ih]
    constructor
    · rintro ⟨path, fault, h⟩
      cases h with
      | here hwrong => exact .inl ⟨fault, hwrong⟩
      | there _ hwrong => exact .inr ⟨path, fault, hwrong⟩
    · rintro (⟨fault, hwrong⟩ | ⟨path, fault, hwrong⟩)
      · exact ⟨first, fault, .here hwrong⟩
      · by_cases hfirst : ∃ other, HasFault files first other
        · obtain ⟨other, hother⟩ := hfirst
          exact ⟨first, other, .here hother⟩
        · exact ⟨path, fault, .there (not_exists.mp hfirst) hwrong⟩

/-- Files that are read in turn fail with what is wrong with the first of them with something
wrong. -/
theorem mapM_readBundle_eq_error_iff {files : FileSystem} {paths : List Path}
    {e : ConnectionError} :
    paths.mapM (readBundle files) = .error e ↔
      ∃ path fault, IsFirstFault files paths path fault ∧ e = .bundleNotLoaded path fault := by
  induction paths with
  | nil =>
    constructor
    · intro h
      cases h
    · rintro ⟨_, _, h, _⟩
      cases h
  | cons first later ih =>
    rw [mapM_cons_eq_error_iff, ih, readBundle_eq_error_iff]
    simp only [readBundle_eq_ok_iff, exists_holdsCertificates_iff]
    constructor
    · rintro (⟨fault, hwrong, he⟩ | ⟨hsound, path, fault, hwrong, he⟩)
      · exact ⟨first, fault, .here hwrong, he⟩
      · exact ⟨path, fault, .there hsound hwrong, he⟩
    · rintro ⟨path, fault, h, he⟩
      cases h with
      | here hwrong => exact .inl ⟨fault, hwrong, he⟩
      | there hsound hwrong => exact .inr ⟨hsound, path, fault, hwrong, he⟩

/-- The file that a connection names does not exist; `path` is where it has to be. -/
def LacksCaFile (machine : Machine) (properties : PropertyMap) (path : Path) : Prop :=
  ∃ reference, properties.getNonBlank? Property.tlsCaFile.name = some reference ∧
    machine.locate reference = path ∧ machine.files.contains path = false

/-- The bundles with the given names that are installed. -/
def installed (machine : Machine) (names : List String) : List Path :=
  (names.map machine.locate).filter machine.files.contains

/-- The files that have to hold certificates, in the order in which they are read: the one that the
connection names, and the bundles that are installed. -/
def requiredFiles (machine : Machine) (properties : PropertyMap) : List Path :=
  ((properties.getNonBlank? Property.tlsCaFile.name).map machine.locate).toList ++
    installed machine ["global-bundle.pem", "rds-prod-root-ca-2021.pem"]

private theorem mapM_ofInstalledBundle_eq_error_iff {machine : Machine} {names : List String}
    {e : ConnectionError} :
    names.mapM (ofInstalledBundle machine) = .error e ↔
      (installed machine names).mapM (readBundle machine.files) = .error e := by
  induction names with
  | nil =>
    constructor
    · intro h
      cases h
    · intro h
      cases h
  | cons name names ih =>
    have hinstalled : installed machine (name :: names) =
        if machine.files.contains (machine.locate name) = true then
          machine.locate name :: installed machine names
        else installed machine names := by
      rw [installed, List.map_cons, List.filter_cons]
      rfl
    rw [mapM_cons_eq_error_iff, ih, hinstalled, ofInstalledBundle]
    -- The entries do not matter here: an installed bundle fails just when its file does.
    by_cases hfound : machine.files.contains (machine.locate name) = true
    · simp only [hfound, if_true, mapM_cons_eq_error_iff, map_eq_error_iff, map_eq_ok_iff]
      simp
    · simp [hfound]

private theorem gather_eq_error_iff_parts {machine : Machine} {properties : PropertyMap}
    {e : ConnectionError} :
    gather machine properties = .error e ↔ ofCaFile machine properties = .error e ∨
      (∃ entries, ofCaFile machine properties = .ok entries) ∧
        installableBundles.mapM (ofInstalledBundle machine) = .error e := by
  rw [gather, bind_eq_error_iff]
  constructor
  · rintro (h | ⟨entries, hentries, h⟩)
    · exact .inl h
    · rcases bind_eq_error_iff.mp h with h | ⟨_, _, h⟩
      · exact .inr ⟨⟨entries, hentries⟩, h⟩
      · cases h
  · rintro (h | ⟨⟨entries, hentries⟩, h⟩)
    · exact .inl h
    · exact .inr ⟨entries, hentries, bind_eq_error_iff.mpr (.inl h)⟩

private theorem gather_of_lacks {machine : Machine} {properties : PropertyMap} {path : Path}
    (h : LacksCaFile machine properties path) :
    gather machine properties = .error (.caFileNotFound path) := by
  obtain ⟨reference, hname, rfl, hmissing⟩ := h
  have hcaFile : ofCaFile machine properties =
      .error (.caFileNotFound (machine.locate reference)) := by
    simp [ofCaFile, hname, hmissing]
  exact gather_eq_error_iff_parts.mpr (.inl hcaFile)

private theorem gather_eq_error_iff_of_not_lacks {machine : Machine} {properties : PropertyMap}
    (h : ∀ path, ¬ LacksCaFile machine properties path) {e : ConnectionError} :
    gather machine properties = .error e ↔
      (requiredFiles machine properties).mapM (readBundle machine.files) = .error e := by
  rw [gather_eq_error_iff_parts, mapM_ofInstalledBundle_eq_error_iff, requiredFiles, ofCaFile]
  cases hname : properties.getNonBlank? Property.tlsCaFile.name with
  | none => simp [installableBundles]
  | some reference =>
    have hfound : machine.files.contains (machine.locate reference) = true := by
      by_contra hmissing
      exact h _ ⟨reference, hname, rfl, by simpa using hmissing⟩
    simp only [hfound, if_true, map_eq_error_iff, map_eq_ok_iff, Option.map_some,
      Option.toList_some, List.singleton_append, mapM_cons_eq_error_iff]
    simp [installableBundles]

/-- A trust list fails for want of the file that the connection names, or because of the first
required file with something wrong. -/
theorem gather_eq_error_iff {machine : Machine} {properties : PropertyMap} {e : ConnectionError} :
    gather machine properties = .error e ↔
      (∃ path, LacksCaFile machine properties path ∧ e = .caFileNotFound path) ∨
      (∀ path, ¬ LacksCaFile machine properties path) ∧ ∃ path fault,
        IsFirstFault machine.files (requiredFiles machine properties) path fault ∧
          e = .bundleNotLoaded path fault := by
  by_cases hlacks : ∃ path, LacksCaFile machine properties path
  · obtain ⟨path, hlacks⟩ := hlacks
    have hgather := gather_of_lacks hlacks
    rw [hgather]
    constructor
    · intro h
      cases h
      exact .inl ⟨path, hlacks, rfl⟩
    · rintro (⟨other, hother, rfl⟩ | ⟨hnone, -⟩)
      · rw [← hgather, gather_of_lacks hother]
      · exact absurd hlacks (hnone path)
  · rw [not_exists] at hlacks
    rw [gather_eq_error_iff_of_not_lacks hlacks, mapM_readBundle_eq_error_iff]
    constructor
    · exact fun h ↦ .inr ⟨hlacks, h⟩
    · rintro (⟨path, h, -⟩ | ⟨-, h⟩)
      · exact absurd h (hlacks path)
      · exact h

/-- A trust list is put together just when the file that the connection names is there and nothing
is wrong with the required files. -/
theorem exists_gather_eq_ok_iff {machine : Machine} {properties : PropertyMap} :
    (∃ t, gather machine properties = .ok t) ↔
      (∀ path, ¬ LacksCaFile machine properties path) ∧
        ∀ path ∈ requiredFiles machine properties, ∀ fault, ¬ HasFault machine.files path fault := by
  constructor
  · rintro ⟨t, ht⟩
    have hnoError : ∀ e, gather machine properties ≠ .error e := by
      intro e he
      rw [ht] at he
      cases he
    have hlacks : ∀ path, ¬ LacksCaFile machine properties path :=
      fun path h ↦ hnoError _ (gather_of_lacks h)
    refine ⟨hlacks, fun path hpath fault hwrong ↦ ?_⟩
    obtain ⟨first, cause, hfirst⟩ := exists_isFirstFault_iff.mpr ⟨path, hpath, fault, hwrong⟩
    exact hnoError _ (gather_eq_error_iff.mpr (.inr ⟨hlacks, first, cause, hfirst, rfl⟩))
  · rintro ⟨hlacks, hsound⟩
    cases hgather : gather machine properties with
    | ok t => exact ⟨t, rfl⟩
    | error e =>
      rcases gather_eq_error_iff.mp hgather with ⟨path, h, -⟩ | ⟨-, path, fault, hfirst, -⟩
      · exact absurd h (hlacks path)
      · obtain ⟨_, hpath, other, hwrong⟩ := exists_isFirstFault_iff.mp ⟨path, fault, hfirst⟩
        exact absurd hwrong (hsound _ hpath other)

/-- Whether a trust list fails, and how, depends on the name of the file that the connection names,
on the files and on where they are looked for, and on nothing else. -/
theorem gather_eq_error_iff_of_same_tlsCaFile {machine : Machine} {properties other : PropertyMap}
    (h : other.getNonBlank? Property.tlsCaFile.name =
      properties.getNonBlank? Property.tlsCaFile.name)
    (store : Option (List Certificate)) {e : ConnectionError} :
    gather { machine with trustStore := store } other = .error e ↔
      gather machine properties = .error e := by
  have hlacks : ∀ path, LacksCaFile { machine with trustStore := store } other path ↔
      LacksCaFile machine properties path := by
    intro path
    rw [LacksCaFile, LacksCaFile, h]
    rfl
  have hrequired : requiredFiles { machine with trustStore := store } other =
      requiredFiles machine properties := by
    rw [requiredFiles, requiredFiles, h]
    rfl
  simp only [gather_eq_error_iff, hlacks, hrequired]

/-- A trust list fails for want of the file that the connection names just when that file does not
exist. If not, it fails with what is wrong with the first file to hold certificates, if anything is:
the file that the connection names comes first, then the two bundles where they are installed. In
all other cases it is put together. The trust store and the other properties make no difference. -/
theorem gather_fails_at_first_cause (machine : Machine) (properties : PropertyMap) :
    (∀ path, gather machine properties = .error (.caFileNotFound path) ↔
      LacksCaFile machine properties path) ∧
    (∀ path fault, gather machine properties = .error (.bundleNotLoaded path fault) ↔
      (∀ missing, ¬ LacksCaFile machine properties missing) ∧
        IsFirstFault machine.files (requiredFiles machine properties) path fault) ∧
    ((∃ t, gather machine properties = .ok t) ↔
      (∀ missing, ¬ LacksCaFile machine properties missing) ∧
        ∀ path ∈ requiredFiles machine properties, ∀ fault, ¬ HasFault machine.files path fault) ∧
    ∀ store other, other.getNonBlank? Property.tlsCaFile.name =
        properties.getNonBlank? Property.tlsCaFile.name →
      ∀ e, gather { machine with trustStore := store } other = .error e ↔
        gather machine properties = .error e := by
  refine ⟨fun path ↦ ⟨fun h ↦ ?_, gather_of_lacks⟩, fun path fault ↦ ⟨fun h ↦ ?_, ?_⟩,
    exists_gather_eq_ok_iff, fun store other h _ ↦ gather_eq_error_iff_of_same_tlsCaFile h store⟩
  · rcases gather_eq_error_iff.mp h with ⟨_, hlacks, he⟩ | ⟨-, _, _, -, he⟩
    · cases he
      exact hlacks
    · cases he
  · rcases gather_eq_error_iff.mp h with ⟨_, -, he⟩ | ⟨hlacks, _, _, hfirst, he⟩
    · cases he
    · cases he
      exact ⟨hlacks, hfirst⟩
  · rintro ⟨hlacks, hfirst⟩
    exact gather_eq_error_iff.mpr (.inr ⟨hlacks, path, fault, hfirst, rfl⟩)

/-- The file that the connection names is in order, the first bundle holds nothing, and the second
one breaks off: the first bundle is at fault, whatever the trust store. -/
theorem gather_fails_at_first_cause_empty_bundle :
    let sound : List Char := "-----BEGIN CERTIFICATE-----\nMAA=\n-----END CERTIFICATE-----\n".toList
    let broken : List Char := "-----BEGIN CERTIFICATE-----\nMAA=\n".toList
    let files := ((FileTree.empty.put ⟨"/home/ann/ca.pem"⟩ (.file (Utf8.encode sound))).put
      ⟨"/etc/docdb/global-bundle.pem"⟩ (.file (Utf8.encode "nothing\n".toList))).put
      ⟨"/etc/docdb/rds-prod-root-ca-2021.pem"⟩ (.file (Utf8.encode broken))
    let machine : Machine :=
      ⟨files.toFileSystem ⟨"/"⟩, ⟨some ⟨"/home/ann"⟩, [⟨"/etc/docdb"⟩]⟩, none⟩
    let properties := PropertyMap.ofList [("tlsCAFile", "~/ca.pem")]
    let cause : ConnectionError :=
      .bundleNotLoaded ⟨"/etc/docdb/global-bundle.pem"⟩ .noCertificates
    gather machine properties = .error cause ∧
      ∀ store, gather { machine with trustStore := store } (properties.offer "tls" "perhaps") =
        .error cause := by
  intro sound broken files machine properties cause
  obtain ⟨-, hfault, -, hsame⟩ := gather_fails_at_first_cause machine properties
  have hthere : ∀ missing, ¬ LacksCaFile machine properties missing := by
    rintro _ ⟨reference, hname, rfl, hmissing⟩
    have hreference : properties.getNonBlank? Property.tlsCaFile.name = some "~/ca.pem" := by
      decide +kernel
    rw [hreference] at hname
    cases hname
    exact absurd hmissing (by decide +kernel)
  have hrequired : requiredFiles machine properties = [⟨"/home/ann/ca.pem"⟩,
      ⟨"/etc/docdb/global-bundle.pem"⟩, ⟨"/etc/docdb/rds-prod-root-ca-2021.pem"⟩] := by
    decide +kernel
  have hsound : HoldsCertificates machine.files ⟨"/home/ann/ca.pem"⟩ [⟨[0x30, 0x00]⟩] :=
    readBundle_eq_ok_iff.mp (by decide +kernel)
  have hempty : HasFault machine.files ⟨"/etc/docdb/global-bundle.pem"⟩ .noCertificates :=
    .noCertificates (by decide +kernel : machine.files.read _ =
      .ok (Utf8.encode "nothing\n".toList)) (by decide +kernel)
  have hfirst : IsFirstFault machine.files (requiredFiles machine properties)
      ⟨"/etc/docdb/global-bundle.pem"⟩ .noCertificates := by
    rw [hrequired]
    exact .there (exists_holdsCertificates_iff.mp ⟨_, hsound⟩) (.here hempty)
  have hgather := (hfault _ _).mpr ⟨hthere, hfirst⟩
  exact ⟨hgather, fun store ↦ (hsame store _ (by decide +kernel) _).mpr hgather⟩

end ConnectionConfig.TrustList
