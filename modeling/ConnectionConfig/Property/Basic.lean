import ConnectionConfig.Property.Keyword
import ConnectionConfig.Property.ValueType

/-!
# The properties of a connection

A property is known by its key. Its place in `Property.all` is the place of its option in a printed
connection string.
-/

namespace ConnectionConfig

/-- The version of this library, as told to servers. -/
def version : String := "0.3.0-unpublished"

/-- The application name of a connection that gives none. -/
def defaultApplicationName : String := "docdbconnect " ++ version

/-- What can be said about a connection. -/
inductive Property where
  | user
  | password
  | host
  | database
  | applicationName
  | loginTimeout
  | scanLimit
  | scanMethod
  | retryReads
  | readPreference
  | tls
  | tlsAllowInvalidHostnames
  | tlsCaFile
  | replicaSet
  | schemaName
  | sshUser
  | sshHost
  | sshPrivateKeyFile
  | sshPrivateKeyPassphrase
  | sshStrictHostKeyChecking
  | sshKnownHostsFile
  | defaultFetchSize
  | refreshSchema
  | authenticationDatabase
  | allowDiskUse
  deriving DecidableEq, Repr

/-- What a schema says about one key. The default is empty if a connection that gives no value has
none. A value is printed as an option unless it is a secret or has a place of its own in a
connection string. -/
structure SchemaEntry where
  name : String
  default : String
  type : ValueType
  printed : Bool
  deriving DecidableEq, Repr

namespace Property

/-- All properties, in the order of the printed options. -/
def all : List Property :=
  [.user, .password, .host, .database, .applicationName, .loginTimeout, .scanLimit, .scanMethod,
    .retryReads, .readPreference, .tls, .tlsAllowInvalidHostnames, .tlsCaFile, .replicaSet,
    .schemaName, .sshUser, .sshHost, .sshPrivateKeyFile, .sshPrivateKeyPassphrase,
    .sshStrictHostKeyChecking, .sshKnownHostsFile, .defaultFetchSize, .refreshSchema,
    .authenticationDatabase, .allowDiskUse]

/-- Key, default, type and use in print of a property. -/
def entry : Property → SchemaEntry
  | user => ⟨"user", "", .text, false⟩
  | password => ⟨"password", "", .text, false⟩
  | host => ⟨"host", "", .text, false⟩
  | database => ⟨"database", "", .text, false⟩
  | applicationName => ⟨"appName", defaultApplicationName, .text, true⟩
  | loginTimeout => ⟨"loginTimeoutSec", "", .integer, true⟩
  | scanLimit => ⟨"scanLimit", "1000", .integer, true⟩
  | scanMethod => ⟨"scanMethod", "random", .oneOf (Keyword.texts ScanMethod), true⟩
  | retryReads => ⟨"retryReads", "true", .boolean, true⟩
  | readPreference => ⟨"readPreference", "", .oneOf (Keyword.texts ReadPreference), true⟩
  | tls => ⟨"tls", "false", .boolean, true⟩
  | tlsAllowInvalidHostnames => ⟨"tlsAllowInvalidHostnames", "false", .boolean, true⟩
  | tlsCaFile => ⟨"tlsCAFile", "", .text, true⟩
  | replicaSet => ⟨"replicaSet", "", .text, true⟩
  | schemaName => ⟨"schemaName", "_default", .text, true⟩
  | sshUser => ⟨"sshUser", "", .text, true⟩
  | sshHost => ⟨"sshHost", "", .text, true⟩
  | sshPrivateKeyFile => ⟨"sshPrivateKeyFile", "", .text, true⟩
  | sshPrivateKeyPassphrase => ⟨"sshPrivateKeyPassphrase", "", .text, false⟩
  | sshStrictHostKeyChecking => ⟨"sshStrictHostKeyChecking", "true", .boolean, true⟩
  | sshKnownHostsFile => ⟨"sshKnownHostsFile", "", .text, true⟩
  | defaultFetchSize => ⟨"defaultFetchSize", "2000", .integer, true⟩
  | refreshSchema => ⟨"refreshSchema", "false", .boolean, true⟩
  | authenticationDatabase => ⟨"defaultAuthDb", "admin", .text, true⟩
  | allowDiskUse => ⟨"allowDiskUse", "default", .oneOf (Keyword.texts DiskUse), true⟩

/-- The key of a property. -/
def name (p : Property) : String := p.entry.name

/-- The value of a property in a connection that gives none; empty if there is no such value. -/
def default (p : Property) : String := p.entry.default

/-- The type of the values of a property. -/
def type (p : Property) : ValueType := p.entry.type

/-- The property with the given key. -/
def ofName? (name : String) : Option Property := all.find? fun p ↦ p.name == name

/-- Every property is in the list of all. -/
theorem mem_all (p : Property) : p ∈ all := by cases p <;> decide

/-- Different properties have different keys. -/
theorem nodup_names : (all.map name).Nodup := by decide +kernel

end Property

end ConnectionConfig
