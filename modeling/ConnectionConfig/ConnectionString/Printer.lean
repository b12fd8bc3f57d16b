import ConnectionConfig.Property.Schema
import ConnectionConfig.PropertyMap.Basic
import ConnectionConfig.Uri.Percent

/-!
# Printing connection strings

Two forms are printed, neither with a password or a passphrase: the public form for logs, which can
be read back, and the form for the tunnel. An option is printed only if its value differs from the
default, and in its canonical form, so that what is printed depends on what the values mean and not
on how or in which order they were given.
-/

namespace ConnectionConfig.ConnectionString

/-- The canonical value of an entry in a map, if it has one that differs from the default. -/
def deviation? (properties : PropertyMap) (entry : SchemaEntry) : Option String :=
  ((properties.get? entry.name).bind entry.type.canonical?).filter fun value ↦
    some value != entry.type.canonical? entry.default

/-- The option for an entry, if its value differs from the default. -/
def option? (properties : PropertyMap) (entry : SchemaEntry) : Option (List Char) :=
  (deviation? properties entry).map fun value ↦
    entry.name.toList ++ '=' :: Percent.encodeForm value.toList

/-- The query with the options for some entries; empty if there are none. -/
def printOptions (properties : PropertyMap) (entries : List SchemaEntry) : List Char :=
  match entries.filterMap (option? properties) with
  | [] => []
  | options => '?' :: ['&'].intercalate options

/-- The value of a property, unless it is blank. -/
def part (properties : PropertyMap) (property : Property) : Option (List Char) :=
  (properties.getNonBlank? property.name).map String.toList

/-- The form for logs: user, host, database and all options that may be printed. -/
def printPublic (schema : Schema) (properties : PropertyMap) : String :=
  let user := match part properties .user with
    | some user => Percent.encode Percent.inComponent user ++ ['@']
    | none => []
  let host := (part properties .host).getD []
  let database := Percent.encode Percent.inComponent ((part properties .database).getD [])
  String.ofList ('/' :: '/' :: user ++ host ++ '/' :: database ++
    printOptions properties (schema.entries.filter SchemaEntry.printed))

/-- The properties that tell how to reach the tunnel host. -/
def tunnelProperties : List Property :=
  [.sshUser, .sshHost, .sshPrivateKeyFile, .sshStrictHostKeyChecking, .sshKnownHostsFile]

/-- The form for the tunnel: the host and the options for the tunnel host. -/
def printTunnel (schema : Schema) (properties : PropertyMap) : String :=
  String.ofList ('/' :: '/' :: (part properties .host).getD [] ++ '/' ::
    printOptions properties (tunnelProperties.filterMap fun p ↦ schema.find? p.name))

end ConnectionConfig.ConnectionString
