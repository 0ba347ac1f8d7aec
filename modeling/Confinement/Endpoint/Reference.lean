import Confinement.Endpoint.Domain.Basic
import Confinement.Endpoint.Ipv6
import Confinement.Text.Percent

/-!
# Absolute references

An absolute reference is a text `scheme:…` as the living standard for URLs reads it: blanks and
control characters around it and line breaks inside it do not count, the scheme is in lower case,
and query and fragment are cut off.  What follows the scheme is an opaque path, a path with its dot
segments removed, or an authority with an optional user, a host and a port, and then a path.

The paths are as written; only the host is in its canonical form.
-/

namespace Confinement.Reference

/-- Why a text is no absolute reference. -/
inductive Fault where
  /-- There is no scheme. -/
  | relative
  /-- A host is needed and there is none. -/
  | emptyHost
  /-- The port is no number below 65536. -/
  | invalidPort
  /-- A host that looks like an IPv4 address is none. -/
  | invalidIpv4
  /-- A host in brackets is no IPv6 address. -/
  | invalidIpv6
  | invalidDomainCharacter
  /-- The domain has no ASCII form. -/
  | invalidInternational
  deriving DecidableEq, Repr

/-- The text under which a fault is told. -/
def Fault.message : Fault → String
  | .relative => "relative URL without a base"
  | .emptyHost => "empty host"
  | .invalidPort => "invalid port number"
  | .invalidIpv4 => "invalid IPv4 address"
  | .invalidIpv6 => "invalid IPv6 address"
  | .invalidDomainCharacter => "invalid domain character"
  | .invalidInternational => "invalid international domain name"

/-- Whether a character is dropped at the ends of a reference. -/
def isEdge (c : Char) : Bool := c.toNat ≤ 0x20

/-- Whether a character is dropped anywhere in a reference. -/
def isBreak (c : Char) : Bool := c == '\t' || c == '\n' || c == '\r'

/-- The characters of a reference that count. -/
def significant (text : String) : List Char :=
  let trimmed := ((text.toList.dropWhile isEdge).reverse.dropWhile isEdge).reverse
  trimmed.filter (fun c => !isBreak c)

/-- Whether a character may stand in a scheme after its first letter. -/
def isSchemeChar (c : Char) : Bool := c.isAlphanum || c == '+' || c == '-' || c == '.'

/-- The scheme, in lower case, and what follows its colon. -/
def splitScheme? (chars : List Char) : Option (String × List Char) :=
  match chars with
  | [] => none
  | first :: _ =>
    if first.isAlpha then
      match chars.dropWhile isSchemeChar with
      | ':' :: rest => some (String.ofList ((chars.takeWhile isSchemeChar).map Char.toLower), rest)
      | _ => none
    else
      none

/-- Schemes whose references always have a host. -/
def webSchemes : List String := ["http", "https", "ws", "wss", "ftp"]

/-- How what follows a scheme is read. -/
inductive SchemeClass where
  | web
  | file
  | plain
  deriving DecidableEq, Repr

def SchemeClass.of (scheme : String) : SchemeClass :=
  if scheme ∈ webSchemes then .web else if scheme = "file" then .file else .plain

/-- Whether a character separates the segments of a path. -/
def SchemeClass.isSlash : SchemeClass → Char → Bool
  | .plain, c => c == '/'
  | .web, c | .file, c => c == '/' || c == '\\'

def endsPath (c : Char) : Bool := c == '?' || c == '#'

/-- Whether a segment is `.`, with its dot written plainly or encoded. -/
def isSingleDot (segment : List Char) : Bool :=
  let lower := segment.map Char.toLower
  lower == ['.'] || lower == ['%', '2', 'e']

/-- Whether a segment is `..`, with its dots written plainly or encoded. -/
def isDoubleDot (segment : List Char) : Bool :=
  let lower := segment.map Char.toLower
  lower == ['.', '.'] || lower == ['.', '%', '2', 'e'] || lower == ['%', '2', 'e', '.'] ||
    lower == ['%', '2', 'e', '%', '2', 'e']

/-- Whether a segment names a drive. -/
def isDrive : List Char → Bool
  | [letter, mark] => letter.isAlpha && (mark == ':' || mark == '|')
  | _ => false

/-- Whether a segment begins with the name of a drive, with nothing or a backslash after it. -/
def beginsWithDrive : List Char → Bool
  | letter :: mark :: rest =>
    isDrive [letter, mark] && (rest.isEmpty || rest.head? == some '\\')
  | _ => false

/-- Drops the last of the segments so far, given in reverse; a drive stays. -/
def dropSegment : List (List Char) → List (List Char)
  | [] => []
  | segment :: rest => if beginsWithDrive segment then segment :: rest else rest

/-- Appends segments to those so far, given in reverse, and removes the dot segments. -/
def removeDots (done : List (List Char)) : List (List Char) → List (List Char)
  | [] => done.reverse
  | [segment] =>
    if isDoubleDot segment then ([] :: dropSegment done).reverse
    else if isSingleDot segment then ([] :: done).reverse
    else (segment :: done).reverse
  | segment :: rest =>
    if isDoubleDot segment then removeDots (dropSegment done) rest
    else if isSingleDot segment then removeDots done rest
    else removeDots (segment :: done) rest

/-- The path whose text after the first slash is given. -/
def rootedPath (schemeClass : SchemeClass) (chars : List Char) : String :=
  let segments := removeDots [] (chars.splitOnP schemeClass.isSlash)
  String.ofList (segments.flatMap ('/' :: ·))

/-- The path after an authority; there may be none. -/
def pathAfterAuthority (schemeClass : SchemeClass) (chars : List Char) : String :=
  match chars.takeWhile (fun c => !endsPath c) with
  | [] => if schemeClass = .plain then "" else "/"
  | first :: rest =>
    if schemeClass.isSlash first then rootedPath schemeClass rest
    else rootedPath schemeClass (first :: rest)

/-- The canonical form of a host in brackets. -/
def bracketed (chars : List Char) : Except Fault String :=
  if chars.getLast? = some ']' then
    match Ipv6.parse? chars.dropLast with
    | some groups => .ok ("[" ++ Ipv6.text groups ++ "]")
    | none => .error .invalidIpv6
  else
    .error .invalidIpv6

/-- The canonical form of a host that is no domain: encoded where it is not printable ASCII. -/
def opaqueHost : List Char → Except Fault String
  | '[' :: rest => bracketed rest
  | chars =>
    if chars.any (· ∈ Domain.forbiddenHostChars) then .error .invalidDomainCharacter
    else .ok (Percent.encodeControls (String.ofList chars))

/-- The number that a part of an IPv4 address spells: decimal, octal or hexadecimal. -/
def ipv4Number? (part : List Char) : Option Nat :=
  let value (base : Nat) (digits : List Char) : Option Nat :=
    digits.foldlM (fun value c =>
      match Text.hexDigit? c with
      | some digit => if digit < base then some (value * base + digit) else none
      | none => none) 0
  match part with
  | [] => none
  | '0' :: 'x' :: digits | '0' :: 'X' :: digits => value 16 digits
  | '0' :: digit :: digits => value 8 (digit :: digits)
  | digits => value 10 digits

/-- The parts of a domain, without an empty one at its end. -/
def domainParts (domain : List Char) : List (List Char) :=
  let parts := domain.splitOn '.'
  if parts.getLast? = some [] then parts.dropLast else parts

/-- Whether the last part of a domain is a number. -/
def endsInNumber (domain : List Char) : Bool :=
  match (domainParts domain).getLast? with
  | some last => (!last.isEmpty && last.all Char.isDigit) || (ipv4Number? last).isSome
  | none => false

/-- Whether a domain is an IPv4 address in one of its spellings. -/
def isIpv4 (domain : List Char) : Bool :=
  let parts := domainParts domain
  if parts.length > 4 then false
  else
    match parts.mapM ipv4Number? with
    | none => false
    | some numbers =>
      numbers.dropLast.all (· ≤ 255) &&
        numbers.getLast?.all (· < Nat.pow 256 (5 - numbers.length))

/-- The canonical form of a domain. -/
def domain (chars : List Char) : Except Fault String :=
  let decoded := Utf8.lossy (Percent.decode (Text.bytes (String.ofList chars)))
  match Domain.ascii? decoded.toList with
  | none => .error .invalidInternational
  | some ascii =>
    if ascii.isEmpty then .error .emptyHost
    else if endsInNumber ascii && !isIpv4 ascii then .error .invalidIpv4
    else .ok (String.ofList ascii)

/-- The canonical form of a host in a reference with a web or file scheme. -/
def webHost : List Char → Except Fault String
  | '[' :: rest => bracketed rest
  | chars => domain chars

/-- Whether a character ends an authority. -/
def endsAuthority (schemeClass : SchemeClass) (c : Char) : Bool :=
  schemeClass.isSlash c || endsPath c

/-- What stands before the last `@` of an authority, and what follows it. -/
def splitUser (authority : List Char) : Option (List Char × List Char) :=
  if authority.contains '@' then
    let reversed := authority.reverse
    some ((reversed.dropWhile (· ≠ '@')).tail.reverse, (reversed.takeWhile (· ≠ '@')).reverse)
  else
    none

/-- The characters of a host and what follows them; a colon in brackets belongs to the host. -/
def splitHost (schemeClass : SchemeClass) (inBrackets : Bool) :
    List Char → List Char × List Char
  | [] => ([], [])
  | c :: rest =>
    if (c = ':' ∧ !inBrackets) ∨ endsAuthority schemeClass c then
      ([], c :: rest)
    else
      let inside := if c = '[' then true else if c = ']' then false else inBrackets
      let (host, after) := splitHost schemeClass inside rest
      (c :: host, after)

/-- The digits of a port read after `value`, and what follows them. -/
def portFrom (value : Option Nat) : List Char → Except Fault (Option Nat × List Char)
  | [] => .ok (value, [])
  | c :: rest =>
    if c.isDigit then
      let next := value.getD 0 * 10 + (c.toNat - '0'.toNat)
      if next > 65535 then .error .invalidPort else portFrom (some next) rest
    else if c = '/' ∨ c = '\\' ∨ endsPath c then .ok (value, c :: rest)
    else .error .invalidPort

/-- An optional port after a host, and what follows it. -/
def splitPort : List Char → Except Fault (Option Nat × List Char)
  | ':' :: rest => portFrom none rest
  | rest => .ok (none, rest)

end Confinement.Reference

namespace Confinement

/-- An absolute reference. -/
structure Reference where
  scheme : String
  /-- The host in its canonical form, if there is one. -/
  host : Option String
  /-- The port, if one is given. -/
  port : Option Nat
  /-- Whether the path is a text without structure. -/
  isOpaque : Bool
  /-- The path, without query and fragment. -/
  path : String
  deriving DecidableEq, Repr

namespace Reference

/-- Reads a host, the port after it and the path after both; the user before it is given. -/
def ofHost (scheme : String) (schemeClass : SchemeClass) (user chars : List Char) :
    Except Fault Reference :=
  let (hostChars, afterHost) := splitHost schemeClass false chars
  if schemeClass = .web ∧ hostChars.isEmpty then
    .error .emptyHost
  else
    match if schemeClass = .plain then opaqueHost hostChars else webHost hostChars with
    | .error fault => .error fault
    | .ok host =>
      if host = "" ∧ afterHost.head? = some ':' then
        .error .emptyHost
      else
        match splitPort afterHost with
        | .error fault => .error fault
        | .ok (port, afterPort) =>
          if host = "" ∧ user ≠ [] ∧ user ≠ [':'] then
            .error .emptyHost
          else
            .ok {
              scheme
              host := if host = "" then none else some host
              port
              isOpaque := false
              path := pathAfterAuthority schemeClass afterPort }

/-- Reads an authority and the path after it. -/
def ofAuthority (scheme : String) (schemeClass : SchemeClass) (chars : List Char) :
    Except Fault Reference :=
  let authority := chars.takeWhile (fun c => !endsAuthority schemeClass c)
  let after := chars.drop authority.length
  match splitUser authority with
  | none => ofHost scheme schemeClass [] chars
  | some ([], host) =>
    if host.isEmpty && !after.isEmpty then .error .emptyHost
    else ofHost scheme schemeClass [] (host ++ after)
  | some (user, host) => ofHost scheme schemeClass user (host ++ after)

/-- Reads what follows the scheme `file:`. -/
def ofFile (scheme : String) (chars : List Char) : Except Fault Reference := do
  let located (host : Option String) (rest : List Char) : Reference :=
    { scheme, host, port := none, isOpaque := false, path := pathAfterAuthority .file rest }
  match chars with
  | first :: second :: rest =>
    if SchemeClass.file.isSlash first && SchemeClass.file.isSlash second then
      let hostChars := rest.takeWhile (fun c => !endsAuthority .file c)
      if isDrive hostChars then
        pure (located none rest)
      else if hostChars.isEmpty then
        pure (located none (rest.drop hostChars.length))
      else
        let host ← webHost hostChars
        pure (located (if host = "localhost" then none else some host)
          (rest.drop hostChars.length))
    else
      pure (located none chars)
  | _ => pure (located none chars)

def parse (text : String) : Except Fault Reference :=
  match splitScheme? (significant text) with
  | none => .error .relative
  | some (scheme, chars) =>
    match SchemeClass.of scheme with
    | .web => ofAuthority scheme .web (chars.dropWhile (SchemeClass.isSlash .web))
    | .file => ofFile scheme chars
    | .plain =>
      match chars with
      | '/' :: '/' :: rest => ofAuthority scheme .plain rest
      | '/' :: rest =>
        .ok ⟨scheme, none, none, false,
          rootedPath .plain (rest.takeWhile (fun c => !endsPath c))⟩
      | _ =>
        .ok ⟨scheme, none, none, true, String.ofList (chars.takeWhile (fun c => !endsPath c))⟩

end Reference

end Confinement
