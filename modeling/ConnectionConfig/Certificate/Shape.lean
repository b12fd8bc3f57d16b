import ConnectionConfig.Certificate.Der

/-!
# Certificates that can be trust anchors

A certificate that is given as an anchor is not verified: it only has to have the shape of a
certificate of version 3, or of version 1 without extensions. Extensions that the library knows
occur once at most; others must not be critical.
-/

namespace ConnectionConfig

/-- A certificate in DER. -/
structure Certificate where
  der : List UInt8
  deriving DecidableEq

namespace Certificate

open Der (Item items?)

/-- The tag of a truth value. -/
def booleanTag : UInt8 := 0x01

/-- The tag of an integer. -/
def integerTag : UInt8 := 0x02

/-- The tag of a bit string. -/
def bitStringTag : UInt8 := 0x03

/-- The tag of an octet string. -/
def octetStringTag : UInt8 := 0x04

/-- The tag of an object identifier. -/
def identifierTag : UInt8 := 0x06

/-- The tag of a sequence. -/
def sequenceTag : UInt8 := 0x30

/-- The tag of the version. -/
def versionTag : UInt8 := 0xA0

/-- The tag of the extensions. -/
def extensionsTag : UInt8 := 0xA3

/-- The contents of bytes that are one item with the given tag. -/
def only? (tag : UInt8) (bytes : List UInt8) : Option (List UInt8) :=
  match items? bytes with
  | some [item] => if item.tag = tag then some item.contents else none
  | _ => none

/-- Whether items have the given tags. -/
def haveTags (items : List Item) (tags : List UInt8) : Bool := items.map Item.tag == tags

/-- What an extension is read as; a reader has to know it if it is critical. -/
structure Extension where
  id : List UInt8
  critical : Bool
  value : List UInt8

/-- The extension that an item holds. -/
def readExtension? (item : Item) : Option Extension :=
  if item.tag ≠ sequenceTag then none
  else
    match items? item.contents with
    | some [id, value] =>
      if haveTags [id, value] [identifierTag, octetStringTag] then
        some ⟨id.contents, false, value.contents⟩
      else none
    | some [id, critical, value] =>
      if haveTags [id, critical, value] [identifierTag, booleanTag, octetStringTag] then
        if critical.contents = [0xFF] then some ⟨id.contents, true, value.contents⟩
        else if critical.contents = [0x00] then some ⟨id.contents, false, value.contents⟩
        else none
      else none
    | _ => none

/-- The object identifiers of the known extensions: key usage, alternative names, basic constraints,
name constraints and extended key usage. -/
def knownExtensions : List (List UInt8) :=
  [[0x55, 0x1D, 15], [0x55, 0x1D, 17], [0x55, 0x1D, 19], [0x55, 0x1D, 30], [0x55, 0x1D, 37]]

/-- The object identifier of the key usage, the one known extension whose value is no sequence. -/
def keyUsage : List UInt8 := [0x55, 0x1D, 15]

/-- Whether an extension may stand in a certificate. -/
def Extension.isAllowed (e : Extension) : Bool :=
  if knownExtensions.contains e.id then
    e.id == keyUsage || (only? sequenceTag e.value).isSome
  else !e.critical

/-- Whether extensions may stand together in a certificate. -/
def areAllowed (extensions : List Extension) : Bool :=
  let known := (extensions.map Extension.id).filter knownExtensions.contains
  !extensions.isEmpty && extensions.all Extension.isAllowed && decide known.Nodup

/-- Whether contents are those of a tagged list of extensions that may stand in a certificate. -/
def hasAllowedExtensions (contents : List UInt8) : Bool :=
  match (only? sequenceTag contents).bind items? with
  | some items =>
    match items.mapM readExtension? with
    | some extensions => areAllowed extensions
    | none => false
  | none => false

/-- Whether the signed part is that of a certificate of version 3: version, serial number, the given
algorithm, issuer, validity, subject and key, and then nothing or extensions. -/
def isVersionThree (algorithm : List UInt8) (signedPart : List Item) : Bool :=
  match signedPart with
  | version :: serial :: signature :: issuer :: validity :: subject :: key :: rest =>
    haveTags [version, serial, signature, issuer, validity, subject, key]
        [versionTag, integerTag, sequenceTag, sequenceTag, sequenceTag, sequenceTag, sequenceTag] &&
      only? integerTag version.contents == some [2] && signature.contents == algorithm &&
      match rest with
      | [] => true
      | [extensions] => extensions.tag == extensionsTag && hasAllowedExtensions extensions.contents
      | _ => false
  | _ => false

/-- Whether the signed part is that of a certificate of version 1: serial number, algorithm, issuer,
validity, subject and key. -/
def isVersionOne (signedPart : List Item) : Bool :=
  haveTags signedPart
    [integerTag, sequenceTag, sequenceTag, sequenceTag, sequenceTag, sequenceTag]

/-- Whether a certificate has the shape of a trust anchor. -/
def isAnchorShaped (c : Certificate) : Bool :=
  match (only? sequenceTag c.der).bind items? with
  | some [signedPart, algorithm, signature] =>
    haveTags [signedPart, algorithm, signature] [sequenceTag, sequenceTag, bitStringTag] &&
      signature.contents.head? == some 0 &&
      match items? signedPart.contents with
      | some items => isVersionThree algorithm.contents items || isVersionOne items
      | none => false
  | _ => false

end Certificate

end ConnectionConfig
