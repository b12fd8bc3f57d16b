import ConnectionConfig.Error
import ConnectionConfig.Machine
import ConnectionConfig.PropertyMap.View
import ConnectionConfig.Trust.Shipped

/-!
# Trust lists

A trust list says whom an encrypted connection trusts, and why. It is put together from the file
that the connection names, the installed bundles, the shipped bundles, the trust store of the
platform and the built-in root program, in this order. A file that is there has to be in order; an
installed bundle may be missing, and a platform without a readable trust store adds nothing.
-/

namespace ConnectionConfig

/-- Trust anchors with their sources. -/
structure TrustList where
  entries : List (TrustSource × TrustAnchor)

namespace TrustList

/-- Certificates as entries from one source. -/
def ofCertificates (source : TrustSource) (certificates : List Certificate) :
    List (TrustSource × TrustAnchor) :=
  certificates.map fun c ↦ (source, .certificate c)

/-- The names of the bundles that may be installed. -/
def installableBundles : List String := ["global-bundle.pem", "rds-prod-root-ca-2021.pem"]

/-- The certificates of a file, of which there has to be one at least. -/
def readBundle (files : FileSystem) (path : Path) : Except ConnectionError (List Certificate) :=
  match files.read path with
  | .error e => .error (.bundleNotLoaded path (.unreadable e))
  | .ok bytes =>
    match Pem.certificates bytes with
    | .error e => .error (.bundleNotLoaded path (.malformed e))
    | .ok [] => .error (.bundleNotLoaded path .noCertificates)
    | .ok certificates => .ok (certificates.map .mk)

/-- The entries from the file that the connection names. -/
def ofCaFile (machine : Machine) (properties : PropertyMap) :
    Except ConnectionError (List (TrustSource × TrustAnchor)) :=
  match properties.getNonBlank? Property.tlsCaFile.name with
  | none => .ok []
  | some reference =>
    let path := machine.locate reference
    if machine.files.contains path then
      (readBundle machine.files path).map (ofCertificates .caFile)
    else .error (.caFileNotFound path)

/-- The entries from a bundle, if it is installed. -/
def ofInstalledBundle (machine : Machine) (name : String) :
    Except ConnectionError (List (TrustSource × TrustAnchor)) :=
  let path := machine.locate name
  if machine.files.contains path then
    (readBundle machine.files path).map (ofCertificates (.installedBundle name))
  else .ok []

/-- The entries from the shipped bundles. -/
def ofShippedBundles : List (TrustSource × TrustAnchor) :=
  ShippedBundle.all.flatMap fun bundle ↦
    ofCertificates (.shippedBundle bundle.name) bundle.certificates

/-- The entries from the trust store of the platform. -/
def ofPlatform (machine : Machine) : List (TrustSource × TrustAnchor) :=
  ofCertificates .platform (machine.trustStore.getD [])

/-- The entries from the built-in root program. -/
def ofRootProgram : List (TrustSource × TrustAnchor) :=
  rootProgram.map fun anchor ↦ (.rootProgram, anchor)

/-- The trust list of a connection. -/
def gather (machine : Machine) (properties : PropertyMap) : Except ConnectionError TrustList := do
  let fromCaFile ← ofCaFile machine properties
  let installed ← installableBundles.mapM (ofInstalledBundle machine)
  return ⟨fromCaFile ++ installed.flatten ++ ofShippedBundles ++ ofPlatform machine ++
    ofRootProgram⟩

/-- The number of entries. -/
def size (t : TrustList) : Nat := t.entries.length

/-- Whether there are no entries. -/
def isEmpty (t : TrustList) : Bool := t.entries.isEmpty

/-- The number of entries from a source. -/
def count (t : TrustList) (source : TrustSource) : Nat :=
  (t.entries.filter fun entry ↦ entry.1 == source).length

/-- The anchors that remain once certificates have been looked at. Those from the platform are left
out if they are not accepted; any other has to be. -/
def anchorsOf (accepts : Certificate → Bool) :
    List (TrustSource × TrustAnchor) → Except ConnectionError (List TrustAnchor)
  | [] => .ok []
  | (source, .certificate c) :: rest =>
    if accepts c then (anchorsOf accepts rest).map (.certificate c :: ·)
    else if source = .platform then anchorsOf accepts rest
    else .error (.anchorRejected source)
  | (_, anchor) :: rest => (anchorsOf accepts rest).map (anchor :: ·)

/-- The anchors of a trust list, if a certificate is an anchor just when `accepts` says so. -/
def anchors (accepts : Certificate → Bool) (t : TrustList) :
    Except ConnectionError (List TrustAnchor) :=
  anchorsOf accepts t.entries

end TrustList

end ConnectionConfig
