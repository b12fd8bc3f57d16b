import ConnectionConfig.Files.Path

/-!
# File systems as seen by a reader

What the other modules need of a file system: the directory from which relative paths are seen,
which paths lead to something, and what a file holds.
-/

namespace ConnectionConfig

/-- Why a file cannot be read. -/
inductive FileError where
  | notFound
  | isDirectory
  | notDirectory
  | nameTooLong
  | nulInPath
  deriving DecidableEq, Repr

/-- The text of the reason. -/
def FileError.message : FileError → String
  | .notFound => "No such file or directory (os error 2)"
  | .isDirectory => "Is a directory (os error 21)"
  | .notDirectory => "Not a directory (os error 20)"
  | .nameTooLong => "File name too long (os error 36)"
  | .nulInPath => "file name contained an unexpected NUL byte"

/-- A file system as seen by a reader: the directory from which relative paths are seen, which paths
lead to a file or directory, and what a file holds. -/
structure FileSystem where
  workingDirectory : Path
  contains : Path → Bool
  read : Path → Except FileError (List UInt8)

/-- The path as seen from the root. -/
def FileSystem.absolute (files : FileSystem) (p : Path) : Path :=
  if p.isAbsolute then p else files.workingDirectory.join p

end ConnectionConfig
