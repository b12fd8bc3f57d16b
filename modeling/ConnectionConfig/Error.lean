import ConnectionConfig.Certificate.Pem
import ConnectionConfig.Files.FileSystem
import ConnectionConfig.Property.Basic
import ConnectionConfig.Trust.Source
import ConnectionConfig.Uri.Basic

/-!
# Errors

An error is a cause with the values that belong to it. The text for people, the state for programs
and the text of a deeper cause are functions of it. A password that cannot be read is not shown.
-/

namespace ConnectionConfig

/-- Why the certificates of a file cannot be used. -/
inductive BundleFault where
  | unreadable (cause : FileError)
  | malformed (cause : Pem.Error)
  | noCertificates
  deriving DecidableEq

/-- The text of the fault. -/
def BundleFault.message : BundleFault → String
  | .unreadable cause => cause.message
  | .malformed cause => cause.message
  | .noCertificates => "no certificates found"

/-- Why the text of a file cannot be read. -/
inductive TextFault where
  | unreadable (cause : FileError)
  | notUtf8
  deriving DecidableEq

/-- The text of the fault. -/
def TextFault.message : TextFault → String
  | .unreadable cause => cause.message
  | .notUtf8 => "stream did not contain valid UTF-8"

/-- Why a connection cannot be configured. -/
inductive ConnectionError where
  | malformedUri (cause : UriError)
  | missingScheme (scheme : String)
  | malformedOption (option : String)
  | missingProperty (property : Property)
  | invalidValue (kind value : String)
  | caFileNotFound (path : Path)
  | bundleNotLoaded (path : Path) (fault : BundleFault)
  | anchorRejected (source : TrustSource)
  | invalidAddress (address : String)
  | fileNotRead (fault : TextFault)
  deriving DecidableEq

namespace ConnectionError

/-- The text for people. -/
def message : ConnectionError → String
  | malformedUri _ => "The connection string is malformed"
  | missingScheme scheme => "The connection string does not start with '" ++ scheme ++ "'"
  | malformedOption option => "The option '" ++ option ++ "' is not of the form <key>=<value>"
  | missingProperty property => "The required property '" ++ property.name ++ "' is missing"
  | invalidValue kind value => "'" ++ value ++ "' is not a valid " ++ kind
  | caFileNotFound path => "The CA file '" ++ path.text ++ "' was not found"
  | bundleNotLoaded path _ => "Certificates from " ++ path.text ++ " could not be loaded"
  | anchorRejected source => "Certificates from " ++ source.label ++ " could not be loaded"
  | invalidAddress address => "'" ++ address ++ "' is not a valid server address"
  | fileNotRead fault => fault.message

/-- The five characters of the SQL state: no connection, an error of the system, or an invalid
parameter. -/
def sqlState : ConnectionError → String
  | malformedUri _ | missingScheme _ | malformedOption _ => "08001"
  | fileNotRead _ => "58030"
  | _ => "22023"

/-- The text of the deeper cause, if there is one. -/
def cause? : ConnectionError → Option String
  | malformedUri cause => some cause.message
  | bundleNotLoaded _ fault => some fault.message
  | anchorRejected _ => some "invalid peer certificate: BadEncoding"
  | fileNotRead fault => some fault.message
  | _ => none

end ConnectionError

/-- The value with the given keyword, or the error that says what is wrong with the word. -/
def Keyword.read {α : Type} [Keyword α] (word : String) : Except ConnectionError α :=
  match Keyword.find? word with
  | some value => .ok value
  | none => .error (.invalidValue (Keyword.kind α) word)

end ConnectionConfig
