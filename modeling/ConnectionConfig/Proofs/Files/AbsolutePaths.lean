import ConnectionConfig.Proofs.Files.Search

/-!
# Paths that do not depend on the working directory

The path for a reference is meant to stay good when the working directory changes later, so it
should be absolute. It is, also for a relative home directory and where the search finds nothing,
with one exception: what is found below a relative folder is handed out as a relative path.
-/

namespace ConnectionConfig.SearchFolders

variable {home : Option Path} {folders : List Path} {files : FileSystem} {reference : String}

/-- A reference that is not looked for leads to an absolute path. -/
theorem isAbsolute_locate_of_not_isSought (hdirectory : files.workingDirectory.isAbsolute = true)
    (h : ¬ IsSought home reference) (folders : List Path) :
    ((⟨home, folders⟩ : SearchFolders).locate files reference).isAbsolute = true := by
  rw [locate]
  split
  · exact FileSystem.isAbsolute_absolute hdirectory _
  · next hseen =>
    have habsolute : (Path.mk reference).isAbsolute = true := by
      by_contra hrelative
      refine h ⟨by simpa using hrelative, ?_⟩
      cases hbelow : belowHome? reference with
      | none => exact .inl rfl
      | some path =>
        cases hhome : home with
        | none => exact .inr rfl
        | some directory => exact absurd hhome (hseen path directory hbelow)
    rw [search, if_pos habsolute]
    exact habsolute

/-- A reference that is looked for leads to a relative path just when it is found below a relative
folder. -/
theorem isAbsolute_locate_eq_false_iff_of_isSought
    (hdirectory : files.workingDirectory.isAbsolute = true) (h : IsSought home reference) :
    ((⟨home, folders⟩ : SearchFolders).locate files reference).isAbsolute = false ↔
      ∃ missed folder, IsFirstHit files ⟨reference⟩ folders missed folder ∧
        folder.isAbsolute = false := by
  rw [locate_of_isSought h]
  cases hfound : (⟨home, folders⟩ : SearchFolders).folderOf? files ⟨reference⟩ with
  | none =>
    have hmiss := folderOf?_eq_none_iff.mp hfound
    simp only [Path.isAbsolute_join, hdirectory, Bool.true_or, Bool.true_eq_false, false_iff]
    rintro ⟨missed, folder, hit, -⟩
    exact hmiss folder (hit.isPrefix.subset (by simp)) hit.holds
  | some folder =>
    obtain ⟨missed, hit⟩ := folderOf?_eq_some_iff.mp hfound
    simp only [Path.isAbsolute_join, h.isRelative, Bool.or_false]
    constructor
    · exact fun hrelative ↦ ⟨missed, folder, hit, hrelative⟩
    · rintro ⟨others, other, hother, hrelative⟩
      rwa [hit.unique hother]

/-- The path for a reference, seen from an absolute working directory: it is relative just when the
reference is looked for and found below a relative folder, in which case it is the reference as seen
from that folder. So it is absolute whenever all search folders are, and then it leads to the same
place whatever the working directory is later. -/
theorem isAbsolute_locate_iff (hdirectory : files.workingDirectory.isAbsolute = true)
    (home : Option Path) (folders : List Path) (reference : String) :
    let located := (⟨home, folders⟩ : SearchFolders).locate files reference
    (located.isAbsolute = true ↔
      ¬ (IsSought home reference ∧
        ∃ missed folder, IsFirstHit files ⟨reference⟩ folders missed folder ∧
          folder.isAbsolute = false)) ∧
    ((∀ folder ∈ folders, folder.isAbsolute = true) → located.isAbsolute = true) ∧
    (located.isAbsolute = true → ∀ later : FileSystem, later.absolute located = located) := by
  intro located
  have hiff : located.isAbsolute = true ↔
      ¬ (IsSought home reference ∧
        ∃ missed folder, IsFirstHit files ⟨reference⟩ folders missed folder ∧
          folder.isAbsolute = false) := by
    by_cases h : IsSought home reference
    · rw [← Bool.not_eq_false, isAbsolute_locate_eq_false_iff_of_isSought hdirectory h,
        and_iff_right h]
    · have habsolute := isAbsolute_locate_of_not_isSought hdirectory h folders
      exact iff_of_true habsolute fun hboth ↦ h hboth.1
  refine ⟨hiff, fun hall ↦ hiff.mpr ?_, FileSystem.absolute_of_isAbsolute⟩
  rintro ⟨-, missed, folder, hit, hrelative⟩
  rw [hall folder (hit.isPrefix.subset (by simp))] at hrelative
  cases hrelative

/-- A relative home directory is seen from the working directory, whatever the search folders are. -/
theorem isAbsolute_locate_below_relative_home :
    let files := FileTree.empty.toFileSystem ⟨"/w"⟩
    let located := (⟨some ⟨"ann"⟩, [⟨"k"⟩]⟩ : SearchFolders).locate files "~\\id"
    located = ⟨"/w/ann/id"⟩ ∧ ∀ later : FileSystem, later.absolute located = located := by
  intro files located
  have hdirectory : files.workingDirectory.isAbsolute = true := by decide
  obtain ⟨hiff, -, hlater⟩ := isAbsolute_locate_iff hdirectory (some ⟨"ann"⟩) [⟨"k"⟩] "~\\id"
  refine ⟨by decide, hlater (hiff.mpr fun hboth ↦ ?_)⟩
  exact hboth.1.not_below_home.elim (by decide) (by decide)

/-- What is found below a relative folder is a relative path. From another working directory it
leads elsewhere, and there may be nothing. -/
theorem not_isAbsolute_locate_below_relative_folder :
    let tree := FileTree.empty.put ⟨"/w/k/ca.pem"⟩ (.file [])
    let located := (⟨none, [⟨"k"⟩]⟩ : SearchFolders).locate (tree.toFileSystem ⟨"/w"⟩) "ca.pem"
    located = ⟨"k/ca.pem"⟩ ∧ ¬ located.isAbsolute = true ∧
      (tree.toFileSystem ⟨"/w"⟩).contains located = true ∧
      (tree.toFileSystem ⟨"/"⟩).contains located = false := by
  decide +kernel

end ConnectionConfig.SearchFolders
