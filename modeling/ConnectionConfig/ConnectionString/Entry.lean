import ConnectionConfig.ConnectionString.Reader
import ConnectionConfig.PropertyMap.Purpose

/-!
# Ways to a property map

A connection string comes as text, in a file, or as a piece of structured data. All but the last
check that the result is fit for a purpose, and take the options for all connections into account.
-/

namespace ConnectionConfig.ConnectionString

/-- What a connection string says on top of a property map, if the result is fit for a purpose. -/
def readFor (purpose : Purpose) (scheme : String) (options : Option String) (seed : PropertyMap)
    (text : String) : Except ConnectionError PropertyMap := do
  (← read Schema.standard scheme options seed text).require purpose

/-- What the connection string in a file says, if the result is fit for a purpose. White space
around the connection string does not count. -/
def load (purpose : Purpose) (options : Option String) (files : FileSystem) (path : Path) :
    Except ConnectionError PropertyMap := do
  let bytes ← (files.read path).mapError fun e ↦ .fileNotRead (.unreadable e)
  match Utf8.decode? bytes with
  | none => throw (.fileNotRead .notUtf8)
  | some text =>
    readFor purpose scheme options PropertyMap.empty (String.ofList (Text.trimChars text))

/-- What a connection string says whose scheme may be left out. -/
def readBare (text : String) : Except ConnectionError PropertyMap :=
  read Schema.standard (if scheme.toList.isPrefixOf text.toList then scheme else "") none
    PropertyMap.empty text

end ConnectionConfig.ConnectionString
