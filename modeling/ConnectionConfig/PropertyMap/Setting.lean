import ConnectionConfig.PropertyMap.View

/-!
# Changes to a property map

A setting gives one property a value of the right type; it is written in the canonical form of the
type. A change is a setting, or takes the value of a property away.
-/

namespace ConnectionConfig

/-- A property with a value of the right type. -/
inductive Setting where
  | host (value : String)
  | user (value : String)
  | password (value : String)
  | database (value : String)
  | applicationName (value : String)
  | replicaSet (value : String)
  | tls (value : Bool)
  | tlsAllowInvalidHostnames (value : Bool)
  | tlsCaFile (value : String)
  | retryReads (value : Bool)
  | loginTimeout (value : UInt32)
  | readPreference (value : ReadPreference)
  | scanMethod (value : ScanMethod)
  | scanLimit (value : Int32)
  | schemaName (value : String)
  | sshUser (value : String)
  | sshHost (value : String)
  | sshPrivateKeyFile (value : String)
  | sshPrivateKeyPassphrase (value : String)
  | sshStrictHostKeyChecking (value : Bool)
  | sshKnownHostsFile (value : String)
  | defaultFetchSize (value : Int32)
  | refreshSchema (value : Bool)
  | authenticationDatabase (value : String)
  | allowDiskUse (value : DiskUse)
  deriving DecidableEq

namespace Setting

/-- The property that is set. -/
def property : Setting → Property
  | host _ => .host
  | user _ => .user
  | password _ => .password
  | database _ => .database
  | applicationName _ => .applicationName
  | replicaSet _ => .replicaSet
  | tls _ => .tls
  | tlsAllowInvalidHostnames _ => .tlsAllowInvalidHostnames
  | tlsCaFile _ => .tlsCaFile
  | retryReads _ => .retryReads
  | loginTimeout _ => .loginTimeout
  | readPreference _ => .readPreference
  | scanMethod _ => .scanMethod
  | scanLimit _ => .scanLimit
  | schemaName _ => .schemaName
  | sshUser _ => .sshUser
  | sshHost _ => .sshHost
  | sshPrivateKeyFile _ => .sshPrivateKeyFile
  | sshPrivateKeyPassphrase _ => .sshPrivateKeyPassphrase
  | sshStrictHostKeyChecking _ => .sshStrictHostKeyChecking
  | sshKnownHostsFile _ => .sshKnownHostsFile
  | defaultFetchSize _ => .defaultFetchSize
  | refreshSchema _ => .refreshSchema
  | authenticationDatabase _ => .authenticationDatabase
  | allowDiskUse _ => .allowDiskUse

/-- The value as text. -/
def text : Setting → String
  | host v | user v | password v | database v | applicationName v | replicaSet v | tlsCaFile v
  | schemaName v | sshUser v | sshHost v | sshPrivateKeyFile v | sshPrivateKeyPassphrase v
  | sshKnownHostsFile v | authenticationDatabase v => v
  | tls v | tlsAllowInvalidHostnames v | retryReads v | sshStrictHostKeyChecking v
  | refreshSchema v => ValueType.booleanText v
  | scanLimit v | defaultFetchSize v => Decimal.ofInt32 v
  | loginTimeout v => Decimal.ofUInt32 v
  | readPreference v => Keyword.text v
  | scanMethod v => Keyword.text v
  | allowDiskUse v => Keyword.text v

end Setting

/-- A change to a property map. -/
inductive Change where
  | set (setting : Setting)
  | unset (property : Property)

namespace PropertyMap

/-- The map with a raw value for a property. -/
def putRaw (m : PropertyMap) (p : Property) (raw : String) : PropertyMap := m.insert p.name raw

/-- The map without a value for a property. -/
def unset (m : PropertyMap) (p : Property) : PropertyMap := m.erase p.name

/-- The map with a value for a property. -/
def set (m : PropertyMap) (s : Setting) : PropertyMap := m.putRaw s.property s.text

/-- The map after a change. -/
def change (m : PropertyMap) : Change → PropertyMap
  | .set setting => m.set setting
  | .unset property => m.unset property

end PropertyMap

end ConnectionConfig
