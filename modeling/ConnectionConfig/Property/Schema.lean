import ConnectionConfig.Property.Basic

/-!
# Schemas

A schema says which keys are supported, and which others are known from related services without
being supported here. Reading and printing connection strings consult a schema and nothing else, so
that a service with more properties needs another schema only.
-/

namespace ConnectionConfig

/-- What is known about keys: the supported ones, in the order of the printed options, and others
that are known without being supported. -/
structure Schema where
  entries : List SchemaEntry
  unsupported : List String

namespace Schema

/-- What is known about a supported key. -/
def find? (schema : Schema) (name : String) : Option SchemaEntry :=
  schema.entries.find? fun entry ↦ entry.name == name

/-- Whether a key is supported. -/
def supports (schema : Schema) (name : String) : Bool := (schema.find? name).isSome

/-- Whether a key is known, but not supported. -/
def isUnsupported (schema : Schema) (name : String) : Bool := schema.unsupported.contains name

/-- The default of a supported key. -/
def default? (schema : Schema) (name : String) : Option String :=
  (schema.find? name).map SchemaEntry.default

/-- The schema of the properties, with the other options of the wire protocol as unsupported. -/
def standard : Schema where
  entries := Property.all.map Property.entry
  unsupported :=
    ["authMechanism", "authMechanismProperties", "authSource", "compressors", "connectTimeoutMS",
      "directConnection", "fsync", "gssapiServiceName", "heartbeatFrequencyMS", "j", "journal",
      "localThresholdMS", "maxIdleTimeMS", "maxLifeTimeMS", "maxPoolSize", "maxStalenessSeconds",
      "minPoolSize", "readConcernLevel", "readPreferenceTags", "retryWrites", "safe",
      "serverSelectionTimeoutMS", "socketTimeoutMS", "ssl", "sslInvalidHostNameAllowed",
      "streamType", "tlsInsecure", "uuidRepresentation", "w", "waitQueueMultiple",
      "waitQueueTimeoutMS", "wtimeoutMS", "zlibCompressionLevel"]

end Schema

end ConnectionConfig
