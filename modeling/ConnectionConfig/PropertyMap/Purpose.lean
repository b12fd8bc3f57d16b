import ConnectionConfig.Error
import ConnectionConfig.PropertyMap.View

/-!
# What a connection needs for a purpose

Each purpose asks for some properties, in a fixed order. The first of them that is missing or blank
is the one to complain about.
-/

namespace ConnectionConfig

/-- What a property map is going to be used for. -/
inductive Purpose where
  | any
  | connection
  | tunnel
  deriving DecidableEq, Repr

namespace Purpose

/-- The purpose where none is named. -/
def usual : Purpose := .connection

/-- The properties that a purpose asks for, in the order of the checks. -/
def required : Purpose → List Property
  | any => []
  | connection => [.user, .password, .database, .host]
  | tunnel => [.host, .sshUser, .sshHost, .sshPrivateKeyFile]

end Purpose

namespace PropertyMap

/-- The first property that a purpose asks for and that is missing or blank. -/
def missing? (m : PropertyMap) (purpose : Purpose) : Option Property :=
  purpose.required.find? fun p ↦ (m.getNonBlank? p.name).isNone

/-- The map if it has all that a purpose asks for. -/
def require (m : PropertyMap) (purpose : Purpose) : Except ConnectionError PropertyMap :=
  match m.missing? purpose with
  | some property => .error (.missingProperty property)
  | none => .ok m

end PropertyMap

end ConnectionConfig
