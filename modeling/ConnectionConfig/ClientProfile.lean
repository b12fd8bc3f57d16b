import ConnectionConfig.PropertyMap.View
import ConnectionConfig.ServerAddress
import ConnectionConfig.Trust.List

/-!
# Client profiles

A profile is all that a client needs to open a connection: who it is, which servers it talks to,
whom it trusts and how it behaves. Where a tunnel is up, the client talks to its near end and the
hosts of the connection are not looked at.
-/

namespace ConnectionConfig

/-- Who a client is, and the database that knows the user. -/
structure Credential where
  user : String
  source : String
  password : String
  deriving DecidableEq

/-- How a connection is encrypted, and whom the client trusts then; without encryption there is
nobody to trust. -/
structure Encryption where
  enabled : Bool
  acceptsOtherHostNames : Bool
  trusted : Option (List TrustAnchor)
  deriving DecidableEq

/-- All that a client needs to open a connection. The timeout is in seconds, and the servers have to
belong to the replica set if there is one. -/
structure ClientProfile (Listener : Type) where
  credential : Option Credential
  listeners : List Listener
  hosts : List ServerAddress
  replicaSet : Option String
  connectTimeout : Option UInt32
  encryption : Encryption
  readPreference : Option ReadPreference
  applicationName : String
  retryReads : Bool
  retryWrites : Bool
  driverName : String
  driverVersion : String

namespace ClientProfile

/-- Who the client is, if user and password are given. -/
def credentialOf (properties : PropertyMap) : Option Credential :=
  match properties.user?, properties.password? with
  | some user, some password => some ⟨user, properties.authenticationDatabase, password⟩
  | _, _ => none

/-- Whether the private key file for the tunnel host exists. -/
def keyFileExists (machine : Machine) (properties : PropertyMap) : Bool :=
  match properties.getNonBlank? Property.sshPrivateKeyFile.name with
  | some reference => machine.files.contains (machine.locate reference)
  | none => false

/-- The near end of the tunnel, if one can be up. -/
def tunnelEnd? (machine : Machine) (properties : PropertyMap) (localPort : Option UInt16) :
    Option ServerAddress :=
  match localPort with
  | some port =>
    if port ≠ 0 ∧ properties.describesTunnel ∧ keyFileExists machine properties then
      some ⟨"localhost", port⟩
    else none
  | none => none

/-- The servers that the client talks to. -/
def hostsOf (machine : Machine) (properties : PropertyMap) (localPort : Option UInt16) :
    Except ConnectionError (List ServerAddress) :=
  match tunnelEnd? machine properties localPort with
  | some address => .ok [address]
  | none => ServerAddress.parseList (properties.host?.getD "")

/-- Whom the client trusts; nobody is asked for if the connection is not encrypted. -/
def trustedBy (machine : Machine) (properties : PropertyMap) :
    Except ConnectionError (Option (List TrustAnchor)) :=
  if properties.tls then do
    let list ← TrustList.gather machine properties
    (list.anchors Certificate.isAnchorShaped).map some
  else .ok none

/-- How the connection is encrypted. -/
def encryptionOf (machine : Machine) (properties : PropertyMap) :
    Except ConnectionError Encryption :=
  (trustedBy machine properties).map fun trusted ↦
    ⟨properties.tls, properties.tlsAllowInvalidHostnames, trusted⟩

/-- The profile for a connection. -/
def build {Listener : Type} (machine : Machine) (properties : PropertyMap)
    (localPort : Option UInt16) (listener : Option Listener) :
    Except ConnectionError (ClientProfile Listener) := do
  let hosts ← hostsOf machine properties localPort
  let encryption ← encryptionOf machine properties
  return {
    credential := credentialOf properties
    listeners := listener.toList
    hosts
    replicaSet := properties.replicaSet?
    connectTimeout := properties.loginTimeout?
    encryption
    readPreference := properties.readPreference?
    applicationName := properties.applicationName
    retryReads := properties.retryReads
    retryWrites := false
    driverName := properties.applicationName
    driverVersion := version }

end ClientProfile

end ConnectionConfig
