import ConnectionConfig.Files.FileTree
import ConnectionConfig.Proofs.Files.Paths
import ConnectionConfig.Files.SearchFolders

/-!
# The search for a file

A relative reference is looked for in the search folders, in their order: the first folder below
which it leads to something decides, and the working directory is the last resort. What comes after
that folder has no part in the result, and neither have folders below which the reference leads to
nothing, nor places in the file system at which the search did not look.
-/

namespace ConnectionConfig.SearchFolders

variable {home : Option Path} {folders : List Path} {files : FileSystem} {path : Path}
  {reference : String}

/-- A relative path leads to something below a folder. A relative folder is seen from the working
directory. -/
def HoldsBelow (files : FileSystem) (path folder : Path) : Prop :=
  files.contains (files.absolute (folder.join path)) = true

instance (files : FileSystem) (path folder : Path) : Decidable (HoldsBelow files path folder) :=
  inferInstanceAs (Decidable (_ = true))

/-- The first of some folders below which a path leads to something, and the folders before it:
these are the folders in which the search looks. -/
structure IsFirstHit (files : FileSystem) (path : Path) (folders missed : List Path)
    (folder : Path) : Prop where
  isPrefix : missed ++ [folder] <+: folders
  holds : HoldsBelow files path folder
  misses : ∀ earlier ∈ missed, ¬ HoldsBelow files path earlier

/-- A reference is looked for in the search folders: it is relative, and no home directory is known
from which it would be seen. -/
structure IsSought (home : Option Path) (reference : String) : Prop where
  isRelative : (Path.mk reference).isAbsolute = false
  not_below_home : belowHome? reference = none ∨ home = none

/-- The folders of a first list with folders between them below which a path leads to nothing, and
with any folders after them. -/
inductive IsFilledUp (files : FileSystem) (path : Path) : List Path → List Path → Prop
  | after (more : List Path) : IsFilledUp files path [] more
  | keep (folder : Path) {folders filled : List Path} (h : IsFilledUp files path folders filled) :
    IsFilledUp files path (folder :: folders) (folder :: filled)
  | between {folder : Path} {folders filled : List Path} (hmiss : ¬ HoldsBelow files path folder)
    (h : IsFilledUp files path folders filled) : IsFilledUp files path folders (folder :: filled)

/-- The search starts at the first folder. -/
theorem folderOf?_cons (first : Path) :
    (⟨home, first :: folders⟩ : SearchFolders).folderOf? files path =
      if HoldsBelow files path first then some first
      else (⟨home, folders⟩ : SearchFolders).folderOf? files path := by
  rw [folderOf?, List.find?_cons]
  by_cases holds : HoldsBelow files path first
  · rw [if_pos holds, show files.contains _ = true from holds]
  · rw [if_neg holds, show files.contains _ = false from Bool.eq_false_iff.mpr holds]
    rfl

/-- The folder that is found is the one of the first hit. -/
theorem folderOf?_eq_some_iff {folder : Path} :
    (⟨home, folders⟩ : SearchFolders).folderOf? files path = some folder ↔
      ∃ missed, IsFirstHit files path folders missed folder := by
  rw [folderOf?, List.find?_eq_some_iff_append]
  simp only [Bool.not_eq_true']
  constructor
  · rintro ⟨holds, missed, after, rfl, misses⟩
    refine ⟨missed, ⟨after, by simp⟩, holds, fun earlier hearlier ↦ ?_⟩
    rw [HoldsBelow, misses earlier hearlier]
    exact Bool.false_ne_true
  · rintro ⟨missed, ⟨after, rfl⟩, holds, misses⟩
    exact ⟨holds, missed, after, by simp, fun earlier hearlier ↦ by
      simpa [HoldsBelow] using misses earlier hearlier⟩

/-- No folder is found just when the path leads to nothing below any. -/
theorem folderOf?_eq_none_iff :
    (⟨home, folders⟩ : SearchFolders).folderOf? files path = none ↔
      ∀ folder ∈ folders, ¬ HoldsBelow files path folder :=
  List.find?_eq_none

/-- There is a first hit just when the path leads to something below some folder. -/
theorem exists_isFirstHit_iff :
    (∃ missed folder, IsFirstHit files path folders missed folder) ↔
      ∃ folder ∈ folders, HoldsBelow files path folder := by
  constructor
  · rintro ⟨missed, folder, hit⟩
    exact ⟨folder, hit.isPrefix.subset (by simp), hit.holds⟩
  · rintro ⟨folder, hfolder, holds⟩
    cases hfound : (⟨none, folders⟩ : SearchFolders).folderOf? files path with
    | none => exact absurd holds (folderOf?_eq_none_iff.mp hfound folder hfolder)
    | some first =>
      obtain ⟨missed, hit⟩ := folderOf?_eq_some_iff.mp hfound
      exact ⟨missed, first, hit⟩

/-- There is one first hit at most. -/
theorem IsFirstHit.unique {missed others : List Path} {folder other : Path}
    (hit : IsFirstHit files path folders missed folder)
    (hother : IsFirstHit files path folders others other) : folder = other := by
  have hfound : (⟨none, folders⟩ : SearchFolders).folderOf? files path = some folder :=
    folderOf?_eq_some_iff.mpr ⟨missed, hit⟩
  rw [folderOf?_eq_some_iff.mpr ⟨others, hother⟩] at hfound
  exact (Option.some.inj hfound).symm

/-- A first hit is a first hit in all file systems that agree on the places at which the search
looks. -/
theorem IsFirstHit.of_agree {missed : List Path} {folder : Path} {other : FileSystem}
    (hit : IsFirstHit files path folders missed folder)
    (hdirectory : other.workingDirectory = files.workingDirectory)
    (hagree : ∀ looked ∈ missed ++ [folder],
      other.contains (files.absolute (looked.join path)) =
        files.contains (files.absolute (looked.join path))) :
    IsFirstHit other path folders missed folder := by
  have hsame : ∀ looked ∈ missed ++ [folder],
      HoldsBelow other path looked ↔ HoldsBelow files path looked := by
    intro looked hlooked
    have habsolute : other.absolute (looked.join path) = files.absolute (looked.join path) := by
      rw [FileSystem.absolute, FileSystem.absolute, hdirectory]
    rw [HoldsBelow, habsolute, hagree looked hlooked, HoldsBelow]
  refine ⟨hit.isPrefix, (hsame folder (by simp)).mpr hit.holds, fun earlier hearlier ↦ ?_⟩
  rw [hsame earlier (List.mem_append_left _ hearlier)]
  exact hit.misses earlier hearlier

/-- Folders that are put between the others or after them leave the folder of a hit as it is. -/
theorem IsFilledUp.folderOf?_eq {filled : List Path} (h : IsFilledUp files path folders filled)
    {folder : Path}
    (hfound : (⟨home, folders⟩ : SearchFolders).folderOf? files path = some folder) :
    (⟨home, filled⟩ : SearchFolders).folderOf? files path = some folder := by
  induction h with
  | after more => cases hfound
  | keep first h ih =>
    rw [folderOf?_cons] at hfound ⊢
    by_cases holds : HoldsBelow files path first
    · rwa [if_pos holds] at hfound ⊢
    · rw [if_neg holds] at hfound ⊢
      exact ih hfound
  | between hmiss h ih =>
    rw [folderOf?_cons, if_neg hmiss]
    exact ih hfound

/-- A reference that is looked for leads below the folder that is found, or below the working
directory. -/
theorem locate_of_isSought (h : IsSought home reference) (folders : List Path)
    (files : FileSystem) :
    (⟨home, folders⟩ : SearchFolders).locate files reference =
      match (⟨home, folders⟩ : SearchFolders).folderOf? files ⟨reference⟩ with
      | some folder => folder.join ⟨reference⟩
      | none => files.workingDirectory.join ⟨reference⟩ := by
  have hsearch : (⟨home, folders⟩ : SearchFolders).locate files reference =
      (⟨home, folders⟩ : SearchFolders).search files ⟨reference⟩ := by
    rw [locate]
    rcases h.not_below_home with hnone | hnone
    · rw [hnone]
    · subst hnone
      cases belowHome? reference with
      | none => rfl
      | some path => rfl
  rw [hsearch, search, ← FileSystem.absolute_of_isRelative h.isRelative]
  exact if_neg (by simp [h.isRelative])

/-- At a first hit a reference leads below that folder. -/
theorem locate_of_isFirstHit (h : IsSought home reference) {missed : List Path} {folder : Path}
    (hit : IsFirstHit files ⟨reference⟩ folders missed folder) :
    (⟨home, folders⟩ : SearchFolders).locate files reference = folder.join ⟨reference⟩ := by
  rw [locate_of_isSought h, folderOf?_eq_some_iff.mpr ⟨missed, hit⟩]

/-- Without a hit a reference leads below the working directory. -/
theorem locate_of_no_hit (h : IsSought home reference)
    (hmiss : ∀ folder ∈ folders, ¬ HoldsBelow files ⟨reference⟩ folder) :
    (⟨home, folders⟩ : SearchFolders).locate files reference =
      files.workingDirectory.join ⟨reference⟩ := by
  rw [locate_of_isSought h, folderOf?_eq_none_iff.mpr hmiss]

/-- The search finds a file whenever there is one, and at the right place. A reference that is
looked for leads below the first folder below which it leads to something, and below the working
directory if there is no such folder. Seen from the working directory, the result leads to something
just when the reference does so below some folder or below the working directory. A hit stays what
it is when folders are put after the others, when folders below which the reference leads to nothing
are put between them, and when the file system changes in any places but those at which the search
looked, up to the hit. -/
theorem locate_by_first_hit (h : IsSought home reference) (folders : List Path)
    (files : FileSystem) (hdirectory : files.workingDirectory.isAbsolute = true) :
    let path : Path := ⟨reference⟩
    let located := (⟨home, folders⟩ : SearchFolders).locate files reference
    ((∃ folder ∈ folders, HoldsBelow files path folder) →
      ∃ missed folder, IsFirstHit files path folders missed folder ∧
        located = folder.join path) ∧
    ((∀ folder ∈ folders, ¬ HoldsBelow files path folder) →
      located = files.workingDirectory.join path) ∧
    (files.contains (files.absolute located) = true ↔
      (∃ folder ∈ folders, HoldsBelow files path folder) ∨
        files.contains (files.workingDirectory.join path) = true) ∧
    ∀ missed folder, IsFirstHit files path folders missed folder →
      ∀ filled (other : FileSystem), other.workingDirectory = files.workingDirectory →
        (∀ looked ∈ missed ++ [folder],
          other.contains (files.absolute (looked.join path)) =
            files.contains (files.absolute (looked.join path))) →
        IsFilledUp other path folders filled →
        (⟨home, filled⟩ : SearchFolders).locate other reference = located := by
  intro path located
  have hfound : (∃ folder ∈ folders, HoldsBelow files path folder) →
      ∃ missed folder, IsFirstHit files path folders missed folder ∧
        located = folder.join path := by
    intro hsome
    obtain ⟨missed, folder, hit⟩ := exists_isFirstHit_iff.mpr hsome
    exact ⟨missed, folder, hit, locate_of_isFirstHit h hit⟩
  refine ⟨hfound, locate_of_no_hit h, ?_, ?_⟩
  · by_cases hsome : ∃ folder ∈ folders, HoldsBelow files path folder
    · obtain ⟨missed, folder, hit, hlocated⟩ := hfound hsome
      rw [hlocated]
      exact ⟨fun _ ↦ .inl hsome, fun _ ↦ hit.holds⟩
    · have hmiss : ∀ folder ∈ folders, ¬ HoldsBelow files path folder := by simpa using hsome
      have hlocated : located = files.workingDirectory.join path := locate_of_no_hit h hmiss
      have habsolute : located.isAbsolute = true := by
        rw [hlocated, Path.isAbsolute_join, hdirectory, Bool.true_or]
      rw [FileSystem.absolute_of_isAbsolute habsolute, hlocated]
      exact ⟨.inr, fun hor ↦ hor.resolve_left hsome⟩
  · intro missed folder hit filled other hother hagree hfilled
    have hstays : (⟨home, folders⟩ : SearchFolders).folderOf? other path = some folder :=
      folderOf?_eq_some_iff.mpr ⟨missed, hit.of_agree hother hagree⟩
    have hlocated : located = folder.join path := locate_of_isFirstHit h hit
    rw [locate_of_isSought h, hfilled.folderOf?_eq hstays, hlocated]

/-- A reference with a tilde, but no home directory, is found below a relative folder. One folder
more before that one and one after it, and files that come and go elsewhere, change nothing. -/
theorem locate_by_first_hit_relative_folder :
    let tree := FileTree.empty.put ⟨"/w/b/~/ca.pem"⟩ (.file [])
    let files := (tree.put ⟨"/w/c/~/ca.pem"⟩ (.file [])).toFileSystem ⟨"/w"⟩
    let other := (tree.put ⟨"/w/~/ca.pem"⟩ (.file [])).toFileSystem ⟨"/w"⟩
    (⟨none, [⟨"/a"⟩, ⟨"b"⟩]⟩ : SearchFolders).locate files "~/ca.pem" = ⟨"b/~/ca.pem"⟩ ∧
      (⟨none, [⟨"c"⟩, ⟨"/a"⟩, ⟨"b"⟩, ⟨"."⟩]⟩ : SearchFolders).locate other "~/ca.pem" =
        ⟨"b/~/ca.pem"⟩ := by
  intro tree files other
  have hsought : IsSought none "~/ca.pem" := ⟨by decide, .inr rfl⟩
  obtain ⟨-, -, -, hstays⟩ := locate_by_first_hit hsought [⟨"/a"⟩, ⟨"b"⟩] files (by decide)
  have hit : IsFirstHit files ⟨"~/ca.pem"⟩ [⟨"/a"⟩, ⟨"b"⟩] [⟨"/a"⟩] ⟨"b"⟩ :=
    ⟨⟨[], rfl⟩, by decide +kernel, by decide +kernel⟩
  have hlocated : (⟨none, [⟨"/a"⟩, ⟨"b"⟩]⟩ : SearchFolders).locate files "~/ca.pem" =
      ⟨"b/~/ca.pem"⟩ := by
    decide +kernel
  refine ⟨hlocated, (hstays _ _ hit _ other rfl (by decide +kernel) ?_).trans hlocated⟩
  exact .between (by decide +kernel) (.keep _ (.keep _ (.after _)))

end ConnectionConfig.SearchFolders
