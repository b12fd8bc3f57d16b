import ConnectionConfig.Files.FileTree
import ConnectionConfig.Files.SearchFolders
import ConnectionConfig.Proofs.Files.Paths

/-!
# References below the home directory

A reference that starts with a tilde and a slash or backslash is seen from the home directory:
neither the search folders nor what the file system holds play a part. The path for it is below the
home directory unless what follows is absolute: that replaces the home directory.
-/

namespace ConnectionConfig.SearchFolders

/-- What a reference below the home directory starts with. -/
def shorthands : List String := ["~/", "~\\"]

/-- What follows the tilde and the mark is taken as it is. -/
theorem belowHome?_append {shorthand : String} (h : shorthand ∈ shorthands) (rest : String) :
    belowHome? (shorthand ++ rest) = some ⟨rest⟩ := by
  simp only [shorthands, List.mem_cons, List.not_mem_nil, or_false] at h
  rcases h with rfl | rfl <;> simp [belowHome?]

/-- The path for a reference below an absolute home directory is what follows the mark as seen from
there. -/
theorem locate_shorthand {home : Path} (habsolute : home.isAbsolute = true) {shorthand : String}
    (h : shorthand ∈ shorthands) (rest : String) (folders : List Path) (files : FileSystem) :
    (⟨some home, folders⟩ : SearchFolders).locate files (shorthand ++ rest) =
      home.join ⟨rest⟩ := by
  have hjoin : (home.join ⟨rest⟩).isAbsolute = true := by
    rw [Path.isAbsolute_join, habsolute, Bool.true_or]
  rw [locate, belowHome?_append h]
  exact FileSystem.absolute_of_isAbsolute hjoin files

/-- The path for a reference below an absolute home directory, whatever the search folders are and
the file system holds: it goes on where the home directory ends, and so stays below it, unless what
follows the mark is absolute. In that case nothing of the home directory is left, and the path is
below it only where what follows the mark is. -/
theorem isBelow_locate_shorthand_iff {home : Path} (habsolute : home.isAbsolute = true)
    {shorthand : String} (h : shorthand ∈ shorthands) (rest : String) (folders : List Path)
    (files : FileSystem) :
    let located := (⟨some home, folders⟩ : SearchFolders).locate files (shorthand ++ rest)
    ((Path.mk rest).isAbsolute = false →
      located.components = home.components ++ (Path.mk rest).steps) ∧
    ((Path.mk rest).isAbsolute = true → located = ⟨rest⟩) ∧
    (located.IsBelow home ↔
      (Path.mk rest).isAbsolute = false ∨ (Path.mk rest).IsBelow home) := by
  intro located
  have hlocated : located = home.join ⟨rest⟩ := locate_shorthand habsolute h rest folders files
  rw [hlocated]
  refine ⟨Path.components_join habsolute, Path.join_of_isAbsolute, ?_⟩
  cases hrest : (Path.mk rest).isAbsolute with
  | false => exact ⟨fun _ ↦ .inl rfl, fun _ ↦ Path.isBelow_join habsolute hrest⟩
  | true => rw [Path.join_of_isAbsolute hrest]; simp

/-- A reference with a backslash and dots, seen from a home directory with a slash at its end. -/
theorem isBelow_locate_shorthand_of_dots :
    let home : Path := ⟨"/home/ann/"⟩
    let files := FileTree.empty.toFileSystem ⟨"/"⟩
    ((⟨some home, [⟨"/etc"⟩]⟩ : SearchFolders).locate files ("~\\" ++ ".ssh/../id")).IsBelow
      home := by
  intro home files
  have habsolute : home.isAbsolute = true := by decide
  have hshorthand : "~\\" ∈ shorthands := by decide
  have hbelow := isBelow_locate_shorthand_iff habsolute hshorthand ".ssh/../id" [⟨"/etc"⟩] files
  exact hbelow.2.2.mpr (.inl (by decide))

/-- One more slash after the mark leads to a place that is not below the home directory. -/
theorem not_isBelow_locate_of_second_slash :
    (⟨some ⟨"/home/ann"⟩, []⟩ : SearchFolders).locate (FileTree.empty.toFileSystem ⟨"/"⟩)
      "~//nope/x" = ⟨"/nope/x"⟩ ∧ ¬ (Path.mk "/nope/x").IsBelow ⟨"/home/ann"⟩ := by
  decide

end ConnectionConfig.SearchFolders
