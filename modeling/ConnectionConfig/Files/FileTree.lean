import ConnectionConfig.Files.FileSystem
import ConnectionConfig.Text.Utf8

/-!
# File trees

A file tree is a file system in memory: places with what stands there. Every place on the way to
another one is a directory. A path is followed name by name; a step needs a directory to start from,
also where it stays in place, so that a path with a slash at its end leads to directories only.
-/

namespace ConnectionConfig

/-- What stands at a place. -/
inductive FileTree.Node where
  | directory
  | file (content : List UInt8)
  deriving DecidableEq

/-- A file system in memory: places, as names from the root, with what stands there. The first entry
of a place counts. -/
structure FileTree where
  entries : List (List (List Char) × FileTree.Node)

namespace FileTree

/-- The tree with nothing but the root. -/
def empty : FileTree := ⟨[]⟩

/-- The tree with a node at the given path, and directories on the way. -/
def put (tree : FileTree) (path : Path) (node : Node) : FileTree :=
  ⟨(path.names, node) :: tree.entries⟩

/-- What stands at a place. -/
def node? (tree : FileTree) (place : List (List Char)) : Option Node :=
  match tree.entries.find? fun entry ↦ entry.1 == place with
  | some entry => some entry.2
  | none =>
    if place.isEmpty || tree.entries.any fun entry ↦ place.isPrefixOf entry.1 then some .directory
    else none

/-- The longest name in bytes. -/
def maxNameLength : Nat := 255

/-- The longest path in bytes. -/
def maxPathLength : Nat := 4095

/-- The number of bytes of a text. -/
def byteCount (text : List Char) : Nat := (Utf8.encode text).length

/-- What a path leads to that has the given parts and starts at a place. -/
def follow (tree : FileTree) (place : List (List Char)) : List (List Char) → Except FileError Node
  | [] =>
    match tree.node? place with
    | some node => .ok node
    | none => .error .notFound
  | part :: rest =>
    match tree.node? place with
    | none => .error .notFound
    | some (.file _) => .error .notDirectory
    | some .directory =>
      if part.isEmpty || part == ".".toList then tree.follow place rest
      else if part == "..".toList then tree.follow place.dropLast rest
      else if maxNameLength < byteCount part then .error .nameTooLong
      else tree.follow (place ++ [part]) rest

/-- What a path leads to as seen from a directory. -/
def find (tree : FileTree) (directory path : Path) : Except FileError Node :=
  if path.text.isEmpty then .error .notFound
  else if path.text.toList.contains '\x00' then .error .nulInPath
  else if maxPathLength < byteCount path.text.toList then .error .nameTooLong
  else tree.follow (if path.isAbsolute then [] else directory.names) path.parts

/-- What the file at a path holds as seen from a directory. -/
def read (tree : FileTree) (directory path : Path) : Except FileError (List UInt8) := do
  match ← tree.find directory path with
  | .file content => return content
  | .directory => throw .isDirectory

/-- The tree as seen from a directory. -/
def toFileSystem (tree : FileTree) (directory : Path) : FileSystem where
  workingDirectory := directory
  contains path := (tree.find directory path).isOk
  read path := tree.read directory path

end FileTree

end ConnectionConfig
