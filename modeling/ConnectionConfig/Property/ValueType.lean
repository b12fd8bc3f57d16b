import ConnectionConfig.Text.Blank
import ConnectionConfig.Text.Decimal
import ConnectionConfig.Text.Letters

/-!
# Value types and canonical values

Every property has a value type, and a value type says which raw texts are values and which of the
texts for one value is the canonical one. White space around a raw text never matters, and blank
text is no value.
-/

namespace ConnectionConfig

/-- What the values of a property are: any text that is not blank, the words `true` and `false`, an
integer of 32 bits, or one of some keywords. -/
inductive ValueType where
  | text
  | boolean
  | integer
  | oneOf (keywords : List String)
  deriving DecidableEq, Repr

namespace ValueType

/-- The word for a truth value. -/
def booleanText (b : Bool) : String := if b then "true" else "false"

/-- The canonical form of a text without white space at its ends that is not empty. -/
def canonicalTrimmed? : ValueType → String → Option String
  | .text, s => some s
  | .boolean, s =>
    if Text.sameLetters s "true" then some "true"
    else if Text.sameLetters s "false" then some "false"
    else none
  | .integer, s => (Decimal.readInt32? s.toList).map Decimal.ofInt32
  | .oneOf keywords, s => keywords.find? fun keyword ↦ Text.sameLetters keyword s

/-- The canonical form of a raw text; none if the text is blank or no value of the type. -/
def canonical? (type : ValueType) (raw : String) : Option String :=
  let trimmed := Text.trim raw
  if trimmed.isEmpty then none else type.canonicalTrimmed? trimmed

end ValueType

end ConnectionConfig
