import ConnectionConfig.Files.FileSystem

/-!
# Search folders

A file reference in a connection may leave out where the file is. A reference below the home
directory, written with a tilde, and an absolute reference are taken at their word; any other is
looked for in some folders, the first hit counts, and the working directory is the last resort.
-/

namespace ConnectionConfig

/-- Where files are looked for. -/
structure SearchFolders where
  home : Option Path
  folders : List Path
  deriving DecidableEq

namespace SearchFolders

/-- The folder below the home directory that belongs to connections. -/
def homeFolder : Path := ⟨".documentdb"⟩

/-- The folders of a program: the home directory, the folder for connections below it, and the
folder of the program. -/
def standard (home programFolder : Option Path) : SearchFolders where
  home := home
  folders := (home.toList ++ (home.map (·.join homeFolder)).toList) ++ programFolder.toList

/-- What follows a tilde and a slash or backslash at the start of a reference. -/
def belowHome? (reference : String) : Option Path :=
  match reference.toList with
  | '~' :: c :: rest => if c = '/' || c = '\\' then some ⟨String.ofList rest⟩ else none
  | _ => none

/-- The first folder below which a relative path leads to something. -/
def folderOf? (search : SearchFolders) (files : FileSystem) (path : Path) : Option Path :=
  search.folders.find? fun folder ↦ files.contains (files.absolute (folder.join path))

/-- The path for a reference that is not seen from the home directory. -/
def search (search : SearchFolders) (files : FileSystem) (path : Path) : Path :=
  if path.isAbsolute then path
  else
    match search.folderOf? files path with
    | some folder => folder.join path
    | none => files.absolute path

/-- The path for a file reference. -/
def locate (search : SearchFolders) (files : FileSystem) (reference : String) : Path :=
  match belowHome? reference, search.home with
  | some path, some home => files.absolute (home.join path)
  | _, _ => search.search files ⟨reference⟩

end SearchFolders

end ConnectionConfig
