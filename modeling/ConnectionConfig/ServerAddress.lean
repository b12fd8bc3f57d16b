import ConnectionConfig.Error
import ConnectionConfig.Text.Blank
import ConnectionConfig.Text.Decimal
import ConnectionConfig.Text.Split

/-!
# Server addresses

An address is a host with a port. In text the port may be left out, and a host with colons stands in
square brackets; without brackets it is taken as a host if it has two colons or more, which leaves
no place for a port.
-/

namespace ConnectionConfig

/-- A host with a port. -/
structure ServerAddress where
  host : String
  port : UInt16
  deriving DecidableEq, Repr

namespace ServerAddress

/-- The port of an address that gives none. -/
def defaultPort : UInt16 := 27017

/-- The address of a host that is not empty. -/
def ofHost? (host : List Char) (port : UInt16) : Option ServerAddress :=
  if host.isEmpty then none else some ⟨String.ofList host, port⟩

/-- The address of a host that is not empty, with a port in text form. -/
def ofHostAndPort? (host port : List Char) : Option ServerAddress :=
  (Decimal.readUInt16? port).bind (ofHost? host)

/-- The address that a text stands for. -/
def parse? (text : String) : Option ServerAddress :=
  match text.toList with
  | '[' :: rest =>
    match Text.cutFirst? ']' rest with
    | some (host, []) => ofHost? host defaultPort
    | some (host, ':' :: port) => ofHostAndPort? host port
    | _ => none
  | cs =>
    match Text.cutFirst? ':' cs with
    | some (host, port) =>
      if port.contains ':' then ofHost? cs defaultPort else ofHostAndPort? host port
    | none => ofHost? cs defaultPort

/-- The address that a text stands for, or the error that names the text. -/
def parse (text : String) : Except ConnectionError ServerAddress :=
  match parse? text with
  | some address => .ok address
  | none => .error (.invalidAddress text)

/-- The text form of an address, always with the port. -/
def render (a : ServerAddress) : String :=
  let port := ":" ++ Decimal.ofUInt16 a.port
  if a.host.toList.contains ':' then "[" ++ a.host ++ "]" ++ port else a.host ++ port

/-- The comma-separated entries of a host text, without white space around them. -/
def entries (hosts : List Char) : List String :=
  (hosts.splitOn ',').map fun entry ↦ String.ofList (Text.trimChars entry)

/-- The addresses of a host text; blank entries do not count. -/
def parseList (hosts : String) : Except ConnectionError (List ServerAddress) :=
  ((entries hosts.toList).filter fun entry ↦ !entry.isEmpty).mapM parse

end ServerAddress

end ConnectionConfig
