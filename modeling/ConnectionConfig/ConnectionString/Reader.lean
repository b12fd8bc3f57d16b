import ConnectionConfig.Error
import ConnectionConfig.Property.Schema
import ConnectionConfig.PropertyMap.Basic
import ConnectionConfig.ServerAddress

/-!
# Reading connection strings

A connection string is a scheme followed by a URI without one. What it says is brought into one
sequence of offers: the host, the user, the password, the database, the options of the query, and
last the options that are set for all connections. A property map takes the offers in turn, so that
what it holds already wins over the connection string, and what comes first wins over what comes
later. Reading fails before anything is taken if any part is out of order.
-/

namespace ConnectionConfig.ConnectionString

/-- What connection strings start with. -/
def scheme : String := "jdbc:documentdb:"

/-- The environment variable with the options for all connections. -/
def optionsVariable : String := "DOCUMENTDB_CUSTOM_OPTIONS"

/-- The options for all connections, from the value of the environment variable. A value that is not
in UTF-8 counts as unset. -/
def optionsOfVariable (value : Option (List UInt8)) : Option String :=
  (value.bind Utf8.decode?).map String.ofList

/-- The host that stands in for a list of hosts while the rest of the URI is read. -/
def standInHost : List Char := "host-list".toList

/-- The list of hosts in a URI, which holds a comma and is kept as it is, and the URI with one host
in its place. All entries of the list have to be addresses. Without such a list the URI is left
alone. -/
def separateHosts (uri : List Char) : Except ConnectionError (List Char × Option (List Char)) :=
  match uri with
  | '/' :: '/' :: rest => do
    let authority := rest.takeWhile fun c ↦ !Uri.endsAuthority c
    let after := rest.dropWhile fun c ↦ !Uri.endsAuthority c
    let (userInfo, hosts) := Uri.splitUserInfo authority
    if hosts.contains ',' then
      let _ ← (ServerAddress.entries hosts).mapM ServerAddress.parse
      let before := match userInfo with
        | some u => u ++ ['@']
        | none => []
      return ('/' :: '/' :: (before ++ standInHost ++ after), some hosts)
    else return (uri, none)
  | _ => .ok (uri, none)

/-- The host of a URI, with the port if there is one. -/
def hostText (uri : Uri) : List Char :=
  match uri.port with
  | some port => uri.host ++ ':' :: (Decimal.ofUInt16 port).toList
  | none => uri.host

/-- What an error shows of a part that cannot be read: the part, but not a password. -/
def shown (property : Property) (part : List Char) : String :=
  if property = .password then "<password>" else String.ofList part

/-- The text of a part with escapes. -/
def readPart (property : Property) (part : List Char) : Except ConnectionError String :=
  match Utf8.decode? (Percent.decode part) with
  | some text => .ok (String.ofList text)
  | none => .error (.invalidValue property.name (shown property part))

/-- The first segment of a path after all slashes at its start. -/
def firstSegment (path : List Char) : List Char :=
  (path.dropWhile (· == '/')).takeWhile (· != '/')

/-- Key and value of an option: the first equals sign separates them. -/
def readOption (option : List Char) : Except ConnectionError (List Char × List Char) :=
  match Text.cutFirst? '=' option with
  | some pair => .ok pair
  | none => .error (.malformedOption (String.ofList option))

/-- The options of a query: those with a supported key, with both sides decoded. -/
def readQuery (schema : Schema) (query : List Char) :
    Except ConnectionError (List (String × String)) := do
  let pairs ← ((query.splitOn '&').filter fun option ↦ !option.isEmpty).mapM readOption
  let decoded := pairs.map fun (key, value) ↦
    (String.ofList (Percent.decodeForm key), String.ofList (Percent.decodeForm value))
  return decoded.filter fun (key, _) ↦ schema.supports key

/-- The options for all connections: every key counts, and nothing is decoded. -/
def readOptions (options : String) : Except ConnectionError (List (String × String)) := do
  let trimmed := (options.toList.splitOn ';').map Text.trimChars
  let pairs ← (trimmed.filter fun option ↦ !option.isEmpty).mapM readOption
  return pairs.map fun (key, value) ↦ (String.ofList key, String.ofList value)

/-- What a URI and the options for all connections offer, in turn. -/
def offers (schema : Schema) (options : Option String) (remainder : List Char) :
    Except ConnectionError (List (String × String)) := do
  let (uriText, hostList) ← separateHosts remainder
  let uri ← (Uri.read uriText).mapError ConnectionError.malformedUri
  let host := String.ofList (hostList.getD (hostText uri))
  let user ← readPart .user uri.user
  let password ← uri.password.toList.mapM (readPart .password)
  let database ← readPart .database (firstSegment uri.path)
  let fromQuery ← readQuery schema (uri.query.getD [])
  let fromOptions ← readOptions (options.getD "")
  return (Property.host.name, host) :: (Property.user.name, user) ::
    (password.map fun p ↦ (Property.password.name, p)) ++
    (Property.database.name, database) :: fromQuery ++ fromOptions

/-- What a connection string says, on top of a property map. If nothing but white space follows the
scheme, the map is left as it is. -/
def read (schema : Schema) (scheme : String) (options : Option String) (seed : PropertyMap)
    (text : String) : Except ConnectionError PropertyMap :=
  match scheme.toList.isPrefixOf? text.toList with
  | none => .error (.missingScheme scheme)
  | some remainder =>
    if remainder.all Text.isSpace then .ok seed
    else (offers schema options remainder).map seed.offerAll

end ConnectionConfig.ConnectionString
