import ConnectionConfig.Text.Blank
import ConnectionConfig.Text.Decimal
import ConnectionConfig.Text.Split
import ConnectionConfig.Uri.Ipv6

/-!
# The parts of a URI

The text after a scheme that has no rules of its own is taken apart: two slashes open an authority
with user information, host and port; one slash opens a hierarchical path, in which the dot segments
are resolved; any other text is a path without structure. Parts are kept in the escaped form, in
which they hold printable ASCII only. The fragment is dropped.
-/

namespace ConnectionConfig

/-- Why a text is not a URI: user information or a port stands without a host, the port is no number
below 65536, a host in square brackets is no IPv6 address, or the host holds a character that no
host can have. -/
inductive UriError where
  | emptyHost
  | invalidPort
  | invalidIpv6
  | invalidHost
  deriving DecidableEq, Repr

/-- The text of the reason. -/
def UriError.message : UriError → String
  | .emptyHost => "empty host"
  | .invalidPort => "invalid port number"
  | .invalidIpv6 => "invalid IPv6 address"
  | .invalidHost => "invalid domain character"

/-- The parts of a URI, escaped. The user name and the host are empty if there are none, and the
password is never empty. -/
structure Uri where
  user : List Char
  password : Option (List Char)
  host : List Char
  port : Option UInt16
  path : List Char
  query : Option (List Char)
  deriving DecidableEq, Repr

namespace Uri

/-- Whether a character ends the authority. -/
def endsAuthority (c : Char) : Bool := c = '/' || c = '?' || c = '#'

/-- Whether a character ends the path. -/
def endsPath (c : Char) : Bool := c = '?' || c = '#'

/-- Whether a character is ignored wherever it stands: tab, line feed, carriage return. -/
def isIgnored (c : Char) : Bool := c = '\t' || c = '\n' || c = '\r'

/-- The text without ignored characters and without blanks and controls at its end. -/
def clean (cs : List Char) : List Char :=
  (Text.dropEnd (fun c ↦ c.toNat ≤ 0x20) cs).filter fun c ↦ !isIgnored c

/-- The authority split after its last at sign: the user information, if there is such a sign, and
the rest. -/
def splitUserInfo (authority : List Char) : Option (List Char) × List Char :=
  match Text.cutLast? '@' authority with
  | some (userInfo, rest) => (some userInfo, rest)
  | none => (none, authority)

/-- User name and password: the first colon separates them, and an empty password is none. -/
def readUserInfo (userInfo : List Char) : List Char × Option (List Char) :=
  match Text.cutFirst? ':' userInfo with
  | some (user, []) => (Percent.encode Percent.inUserInfo user, none)
  | some (user, password) =>
    (Percent.encode Percent.inUserInfo user, some (Percent.encode Percent.inUserInfo password))
  | none => (Percent.encode Percent.inUserInfo userInfo, none)

/-- The host and what follows it: a colon ends the host unless it stands in square brackets. -/
def splitHost : Bool → List Char → List Char × List Char
  | _, [] => ([], [])
  | bracketed, c :: rest =>
    if c = ':' && !bracketed then ([], c :: rest)
    else
      let inside := if c = '[' then true else if c = ']' then false else bracketed
      let (host, after) := splitHost inside rest
      (c :: host, after)

/-- Whether no host name can have the character. -/
def isForbiddenInHost (c : Char) : Bool :=
  "\x00\t\n\r #/:<>?@[\\]^|".toList.contains c

/-- The host in its printed form: an address in square brackets, or a name with escapes. -/
def readHost (cs : List Char) : Except UriError (List Char) :=
  match cs with
  | '[' :: rest =>
    match rest.getLast? with
    | some ']' =>
      match Ipv6.read? rest.dropLast with
      | some groups => .ok ('[' :: Ipv6.print groups ++ [']'])
      | none => .error .invalidIpv6
    | _ => .error .invalidIpv6
  | _ =>
    if cs.any isForbiddenInHost then .error .invalidHost
    else .ok (Percent.encode Percent.isControl cs)

/-- The port after the host, and what is left for the path; a colon without digits is no port. -/
def readPort (cs : List Char) : Except UriError (Option UInt16 × List Char) :=
  match cs with
  | ':' :: rest =>
    let digits := rest.takeWhile Char.isDigit
    let after := rest.dropWhile Char.isDigit
    let n := Nat.ofDigitChars 10 digits 0
    if 65535 < n || !(after.isEmpty || after.head? = some '\\') then .error .invalidPort
    else .ok (if digits.isEmpty then none else some (UInt16.ofNat n), after)
  | _ => .ok (none, cs)

/-- Whether a segment stands for the current level. -/
def isSingleDot (segment : List Char) : Bool :=
  [".".toList, "%2e".toList].contains (segment.map Char.toLower)

/-- Whether a segment stands for the level above. -/
def isDoubleDot (segment : List Char) : Bool :=
  ["..".toList, ".%2e".toList, "%2e.".toList, "%2e%2e".toList].contains
    (segment.map Char.toLower)

/-- Whether a segment names a drive, as in `C:`; such a segment stays in place. -/
def namesDrive : List Char → Bool
  | letter :: mark :: rest =>
    letter.isAlpha && (mark = ':' || mark = '|') && (rest.isEmpty || rest.head? = some '\\')
  | _ => false

/-- The levels above the last one, unless that one names a drive. The last level comes first. -/
def parent : List (List Char) → List (List Char)
  | [] => []
  | last :: levels => if namesDrive last then last :: levels else levels

/-- The levels of a path after its segments have been taken in turn. A dot segment at the end
leaves an empty level. The last level comes first. -/
def resolveSegments (levels : List (List Char)) : List (List Char) → List (List Char)
  | [] => levels
  | segment :: rest =>
    let reached := if isDoubleDot segment then parent levels else levels
    if isDoubleDot segment || isSingleDot segment then
      if rest.isEmpty then [] :: reached else resolveSegments reached rest
    else resolveSegments (segment :: levels) rest

/-- The path after a slash, escaped and with dot segments resolved. -/
def readPath (cs : List Char) : List Char :=
  let segments := (Percent.encode Percent.inPath cs).splitOn '/'
  '/' :: ['/'].intercalate (resolveSegments [] segments).reverse

/-- The path after an authority: it starts with a slash unless it is empty. -/
def readPathAfterAuthority : List Char → List Char
  | [] => []
  | '/' :: rest => readPath rest
  | cs => readPath cs

/-- The query, from a text that is empty or starts with the mark that ended the path. -/
def readQuery : List Char → Option (List Char)
  | '?' :: rest => some (Percent.encode Percent.inQuery (rest.takeWhile (· != '#')))
  | _ => none

/-- Host, port and what is left for the path, from the authority after the user information. A colon
needs a host before it. -/
def readHostAndPort (cs : List Char) :
    Except UriError (List Char × Option UInt16 × List Char) :=
  let (hostText, after) := splitHost false cs
  match readHost hostText with
  | .error e => .error e
  | .ok host =>
    if host.isEmpty && after.head? == some ':' then .error .emptyHost
    else (readPort after).map fun (port, rest) ↦ (host, port, rest)

/-- The parts of a URI with an authority: the user information, which may be missing, what follows
it up to the end of the authority, and the rest. User information needs a host, unless it is empty
and nothing at all follows. -/
def ofAuthority (userInfo : Option (List Char)) (hostAndPort rest : List Char) :
    Except UriError Uri :=
  if userInfo == some [] && hostAndPort.isEmpty && !rest.isEmpty then .error .emptyHost
  else
    match readHostAndPort hostAndPort with
    | .error e => .error e
    | .ok (host, port, afterPort) =>
      let (user, password) := readUserInfo (userInfo.getD [])
      if host.isEmpty && (!user.isEmpty || password.isSome) then .error .emptyHost
      else
        let tail := afterPort ++ rest
        .ok {
          user, password, host, port
          path := readPathAfterAuthority (tail.takeWhile fun c ↦ !endsPath c)
          query := readQuery (tail.dropWhile fun c ↦ !endsPath c) }

/-- The parts of the text after the two slashes that open an authority. -/
def readAuthority (cs : List Char) : Except UriError Uri :=
  let (userInfo, hostAndPort) := splitUserInfo (cs.takeWhile fun c ↦ !endsAuthority c)
  ofAuthority userInfo hostAndPort (cs.dropWhile fun c ↦ !endsAuthority c)

/-- The parts of a text that has no authority and the given path. -/
def withoutAuthority (path afterPath : List Char) : Uri :=
  { user := [], password := none, host := [], port := none, path, query := readQuery afterPath }

/-- The parts of the text after the colon of the scheme. -/
def read (text : List Char) : Except UriError Uri :=
  match clean text with
  | '/' :: '/' :: rest => readAuthority rest
  | '/' :: rest =>
    .ok (withoutAuthority (readPath (rest.takeWhile fun c ↦ !endsPath c))
      (rest.dropWhile fun c ↦ !endsPath c))
  | cs =>
    .ok (withoutAuthority (Percent.encode Percent.isControl (cs.takeWhile fun c ↦ !endsPath c))
      (cs.dropWhile fun c ↦ !endsPath c))

end Uri

end ConnectionConfig
