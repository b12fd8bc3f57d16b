import ConnectionConfig.Certificate.Base64
import ConnectionConfig.Text.Quoted
import ConnectionConfig.Text.Utf8

/-!
# Certificates in PEM files

A PEM file holds sections between lines with dashes, and anything else around them. The text of a
section is in base 64. Sections of any type have to be in order; those that are not certificates are
passed over. A file without certificates is in order.
-/

namespace ConnectionConfig.Pem

/-- Why a file is not in order: a line starts a section without five dashes at its end, the file
ends inside a section, or the text of a section is not in base 64. -/
inductive Error where
  | illegalStart (line : List UInt8)
  | missingEnd (line : List UInt8)
  | base64 (cause : Base64.Error)
  deriving DecidableEq

/-- The text of the reason. -/
def Error.message : Error → String
  | .illegalStart line => "illegal section start: " ++ Text.quote (Utf8.decodeTolerant line)
  | .missingEnd line => "section end " ++ Text.quote (Utf8.decodeTolerant line) ++ " missing"
  | .base64 cause => cause.message

/-- The bytes of a text. -/
def bytes (text : String) : List UInt8 := Utf8.encode text.toList

/-- Whether a byte ends a line: line feed or carriage return. -/
def isLineEnd (b : UInt8) : Bool := b == 0x0A || b == 0x0D

/-- Whether a byte does not count at the end of a line: a line end or a space. -/
def isTrailing (b : UInt8) : Bool := isLineEnd b || b == 0x20

/-- The hyphen, of which the dashes are made. -/
def hyphen : UInt8 := 0x2D

/-- The lines of a file, with their ends. -/
def lines (file : List UInt8) : List (List UInt8) :=
  file.foldr
    (fun b later ↦
      if isLineEnd b then [b] :: later
      else
        match later with
        | [] => [[b]]
        | line :: rest => (b :: line) :: rest)
    []

/-- What every line starts with that starts a section. -/
def startMark : List UInt8 := bytes "-----BEGIN "

/-- The type of the section that a line starts: what stands between the mark at the start and the
five dashes at the end. Spaces and line ends between and after the dashes do not count. -/
def sectionType? (line : List UInt8) : Option (List UInt8) :=
  let closing := line.reverse.takeWhile fun b ↦ b == hyphen || isTrailing b
  if closing.count hyphen = 5 then
    let fromFirstDash := closing.reverse.dropWhile (· != hyphen)
    some ((line.take (line.length - fromFirstDash.length)).drop startMark.length)
  else none

/-- What the line starts with that ends a section of a type. -/
def endMark (type : List UInt8) : List UInt8 := bytes "-----END " ++ type ++ bytes "-----"

/-- The type of the sections that hold certificates. -/
def certificateType : List UInt8 := bytes "CERTIFICATE"

/-- The certificates in the lines after a point: `type` is the type of the section that is open
there, and `text` what has been collected for it. A section that starts inside another one takes
its place, with the text collected so far. -/
def certificatesFrom (type : Option (List UInt8)) (text : List UInt8) :
    List (List UInt8) → Except Error (List (List UInt8))
  | [] =>
    match type with
    | some t => .error (.missingEnd (endMark t))
    | none => .ok []
  | line :: rest =>
    if startMark.isPrefixOf line then
      match sectionType? line with
      | some t => certificatesFrom (some t) text rest
      | none => .error (.illegalStart line)
    else
      match type with
      | none => certificatesFrom none text rest
      | some t =>
        if (endMark t).isPrefixOf line then
          match Base64.decode text with
          | .error e => .error (.base64 e)
          | .ok der =>
            (certificatesFrom none [] rest).map fun later ↦
              if t = certificateType then der :: later else later
        else
          certificatesFrom (some t) (text ++ (line.reverse.dropWhile isTrailing).reverse) rest

/-- The certificates of a file, in order. -/
def certificates (file : List UInt8) : Except Error (List (List UInt8)) :=
  certificatesFrom none [] (lines file)

end ConnectionConfig.Pem
