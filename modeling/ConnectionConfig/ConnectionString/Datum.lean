import ConnectionConfig.ConnectionString.Entry
import ConnectionConfig.ConnectionString.Printer
import ConnectionConfig.Text.Shortest

/-!
# Connection strings in structured data

In structured data a connection is a text, which is a connection string with or without its scheme.
It is written as the public form, so that no password is ever written.
-/

namespace ConnectionConfig

/-- A piece of structured data, as far as it matters here: what sequences and mappings hold does
not. -/
inductive Datum where
  | null
  | boolean (value : Bool)
  | integer (value : Int)
  | fraction (value : Float)
  | text (value : String)
  | sequence
  | mapping

/-- A fraction in a message is written out if its first digit is among the sixteen places before the
point or the five after it. -/
def Datum.fractionLayout : Shortest.Layout := ⟨-5, 16⟩

/-- How a piece of data is called in messages. -/
def Datum.label : Datum → String
  | .null => "null"
  | .boolean value => "boolean \x60" ++ ValueType.booleanText value ++ "\x60"
  | .integer value => "integer \x60" ++ String.ofList (Decimal.ofInt value) ++ "\x60"
  | .fraction value => "floating point \x60" ++ Shortest.print Datum.fractionLayout value ++ "\x60"
  | .text value => value
  | .sequence => "sequence"
  | .mapping => "map"

/-- Why a piece of data is no connection: it is no text, or the text is no connection string. -/
inductive DatumError where
  | notText (datum : Datum)
  | malformed (cause : ConnectionError)

/-- The text of the reason. -/
def DatumError.message : DatumError → String
  | .notText datum =>
    "invalid type: " ++ datum.label ++ ", expected a String in the form of a connection string"
  | .malformed cause => cause.message

namespace PropertyMap

/-- The connection in a piece of data. -/
def ofDatum : Datum → Except DatumError PropertyMap
  | .text text => (ConnectionString.readBare text).mapError .malformed
  | datum => .error (.notText datum)

/-- The piece of data for a connection. -/
def toDatum (m : PropertyMap) : Datum := .text (ConnectionString.printPublic Schema.standard m)

end PropertyMap

end ConnectionConfig
