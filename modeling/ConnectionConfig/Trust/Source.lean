import ConnectionConfig.Certificate.Shape

/-!
# Where trust comes from

A trust anchor is a certificate or an entry of the root program that is built into the library.
Each anchor is kept with the source from which it came.
-/

namespace ConnectionConfig

/-- Where a trust anchor came from: the file that the connection names, a bundle of the service that
is installed on the machine or part of the library, the trust store of the platform, or the root
program that is built into the library. -/
inductive TrustSource where
  | caFile
  | installedBundle (name : String)
  | shippedBundle (name : String)
  | platform
  | rootProgram
  deriving DecidableEq, Repr

/-- How a source is called in messages. -/
def TrustSource.label : TrustSource → String
  | .caFile => "CaFile"
  | .installedBundle name => "DistributionBundle(\"" ++ name ++ "\")"
  | .shippedBundle name => "EmbeddedBundle(\"" ++ name ++ "\")"
  | .platform => "Platform"
  | .rootProgram => "Runtime"

/-- Somebody who can vouch for a server: a certificate, or an entry of the built-in root program by
its place. -/
inductive TrustAnchor where
  | certificate (c : Certificate)
  | root (place : Nat)
  deriving DecidableEq

/-- The number of entries of the built-in root program. -/
def rootProgramSize : Nat := 147

/-- The entries of the built-in root program. -/
def rootProgram : List TrustAnchor := (List.range rootProgramSize).map TrustAnchor.root

end ConnectionConfig
