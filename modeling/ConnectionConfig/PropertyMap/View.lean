import ConnectionConfig.Property.Basic
import ConnectionConfig.PropertyMap.Basic

/-!
# Property maps as descriptions of connections

Each property has a reader that gives its value with the right type. A value that is missing, or is
no value of the type of the property, counts as the default. Texts are given as they are.
-/

namespace ConnectionConfig.PropertyMap

/-- The raw value of a property. -/
def raw? (m : PropertyMap) (p : Property) : Option String := m.get? p.name

/-- The raw value of a property, or its default. -/
def rawOrDefault (m : PropertyMap) (p : Property) : String := (m.raw? p).getD p.default

/-- The value of a property as read by `parse` from its canonical form, or else the default. -/
def value? {α : Type} (parse : String → Option α) (m : PropertyMap) (p : Property) : Option α :=
  (((m.raw? p).bind p.type.canonical?).bind parse) <|> parse p.default

/-- The truth value with the given word. -/
def readBoolean? (word : String) : Option Bool :=
  if word = "true" then some true else if word = "false" then some false else none

/-- The value of a property that is a truth value. -/
def flag (m : PropertyMap) (p : Property) : Bool := (m.value? readBoolean? p).getD false

/-- The value of a property that is an integer. -/
def number? (m : PropertyMap) (p : Property) : Option Int32 :=
  m.value? (fun text ↦ Decimal.readInt32? text.toList) p

/-- The host with an optional port, or several of them. -/
def host? (m : PropertyMap) : Option String := m.raw? .host

/-- The user name. -/
def user? (m : PropertyMap) : Option String := m.raw? .user

/-- The password. -/
def password? (m : PropertyMap) : Option String := m.raw? .password

/-- The database. -/
def database? (m : PropertyMap) : Option String := m.raw? .database

/-- The application name. -/
def applicationName (m : PropertyMap) : String := m.rawOrDefault .applicationName

/-- The name of the replica set. -/
def replicaSet? (m : PropertyMap) : Option String := m.raw? .replicaSet

/-- Whether the connection is encrypted. -/
def tls (m : PropertyMap) : Bool := m.flag .tls

/-- Whether a certificate for another host name is accepted. -/
def tlsAllowInvalidHostnames (m : PropertyMap) : Bool := m.flag .tlsAllowInvalidHostnames

/-- The file of certificate authorities to trust. -/
def tlsCaFile? (m : PropertyMap) : Option String := m.raw? .tlsCaFile

/-- Whether a failed read is tried again. -/
def retryReads (m : PropertyMap) : Bool := m.flag .retryReads

/-- How many seconds opening the connection may take; a negative number counts as none. -/
def loginTimeout? (m : PropertyMap) : Option UInt32 :=
  (m.number? .loginTimeout).bind fun n ↦
    if 0 ≤ n.toInt then some (UInt32.ofNat n.toInt.toNat) else none

/-- From which members of a replica set data is read. -/
def readPreference? (m : PropertyMap) : Option ReadPreference :=
  m.value? Keyword.find? .readPreference

/-- Which documents a scan for metadata looks at. -/
def scanMethod (m : PropertyMap) : ScanMethod :=
  (m.value? Keyword.find? .scanMethod).getD .random

/-- How many documents a scan for metadata looks at. -/
def scanLimit? (m : PropertyMap) : Option Int32 := m.number? .scanLimit

/-- The name of the schema. -/
def schemaName (m : PropertyMap) : String := m.rawOrDefault .schemaName

/-- The user name at the tunnel host. -/
def sshUser? (m : PropertyMap) : Option String := m.raw? .sshUser

/-- The tunnel host. -/
def sshHost? (m : PropertyMap) : Option String := m.raw? .sshHost

/-- The private key file for the tunnel host. -/
def sshPrivateKeyFile? (m : PropertyMap) : Option String := m.raw? .sshPrivateKeyFile

/-- The passphrase of the private key. -/
def sshPrivateKeyPassphrase? (m : PropertyMap) : Option String := m.raw? .sshPrivateKeyPassphrase

/-- Whether the key of the tunnel host has to be known. -/
def sshStrictHostKeyChecking (m : PropertyMap) : Bool := m.flag .sshStrictHostKeyChecking

/-- The file of known tunnel hosts. -/
def sshKnownHostsFile? (m : PropertyMap) : Option String := m.raw? .sshKnownHostsFile

/-- How many documents are fetched at a time. -/
def defaultFetchSize? (m : PropertyMap) : Option Int32 := m.number? .defaultFetchSize

/-- Whether the schema is read anew. -/
def refreshSchema (m : PropertyMap) : Bool := m.flag .refreshSchema

/-- The database that knows the user. -/
def authenticationDatabase (m : PropertyMap) : String := m.rawOrDefault .authenticationDatabase

/-- Whether an aggregation may write temporary data to disk. -/
def allowDiskUse (m : PropertyMap) : DiskUse :=
  (m.value? Keyword.find? .allowDiskUse).getD .default

/-- Whether all is there that a tunnel needs. -/
def describesTunnel (m : PropertyMap) : Bool :=
  [Property.sshUser, .sshHost, .sshPrivateKeyFile].all fun p ↦ (m.getNonBlank? p.name).isSome

end ConnectionConfig.PropertyMap
