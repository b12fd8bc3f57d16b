import ConnectionConfig.Text.Letters

/-!
# Values that are chosen from a list of keywords

Each such value is written as a keyword and read without regard to the case of ASCII letters.
-/

namespace ConnectionConfig

/-- A type whose values are written as keywords, with what such a value is called in messages. -/
class Keyword (α : Type) where
  all : List α
  text : α → String
  kind : String

namespace Keyword

/-- The keywords of a type, in the order of its values. -/
def texts (α : Type) [Keyword α] : List String := (all : List α).map text

/-- The value with the given keyword, in letters of any case. -/
def find? {α : Type} [Keyword α] (word : String) : Option α :=
  all.find? fun value ↦ Text.sameLetters (text value) word

end Keyword

/-- From which members of a replica set data is read. -/
inductive ReadPreference where
  | primary
  | primaryPreferred
  | secondary
  | secondaryPreferred
  | nearest
  deriving DecidableEq, Repr

instance : Keyword ReadPreference where
  all := [.primary, .primaryPreferred, .secondary, .secondaryPreferred, .nearest]
  text
    | .primary => "primary"
    | .primaryPreferred => "primaryPreferred"
    | .secondary => "secondary"
    | .secondaryPreferred => "secondaryPreferred"
    | .nearest => "nearest"
  kind := "ReadPreference"

/-- Which documents a scan for metadata looks at. -/
inductive ScanMethod where
  | random
  | idForward
  | idReverse
  | all
  deriving DecidableEq, Repr

instance : Keyword ScanMethod where
  all := [.random, .idForward, .idReverse, .all]
  text
    | .random => "random"
    | .idForward => "idForward"
    | .idReverse => "idReverse"
    | .all => "all"
  kind := "MetadataScanMethod"

/-- Whether an aggregation may write temporary data to disk. -/
inductive DiskUse where
  | default
  | disable
  | enable
  deriving DecidableEq, Repr

instance : Keyword DiskUse where
  all := [.default, .disable, .enable]
  text
    | .default => "default"
    | .disable => "disable"
    | .enable => "enable"
  kind := "AllowDiskUseOption"

end ConnectionConfig
