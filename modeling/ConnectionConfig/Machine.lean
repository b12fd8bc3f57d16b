import ConnectionConfig.Certificate.Pem
import ConnectionConfig.Certificate.Shape
import ConnectionConfig.Files.SearchFolders

/-!
# Machines

What a connection takes from the machine on which it is opened: files, the folders in which they are
looked for, and the certificates that the platform trusts.
-/

namespace ConnectionConfig

/-- A machine on which connections are opened. Its trust store is none if it cannot be read. -/
structure Machine where
  files : FileSystem
  search : SearchFolders
  trustStore : Option (List Certificate)

namespace Machine

/-- The path for a file reference. -/
def locate (machine : Machine) (reference : String) : Path :=
  machine.search.locate machine.files reference

/-- The trust store that is kept in a PEM file: all of its certificates, or none at all if anything
is wrong with it. -/
def readTrustStore? (files : FileSystem) (path : Path) : Option (List Certificate) :=
  match files.read path with
  | .ok bytes => (Pem.certificates bytes).toOption.map fun certificates ↦ certificates.map .mk
  | .error _ => none

end Machine

end ConnectionConfig
