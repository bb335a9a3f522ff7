import MonorepoCheck.Domain.Name
import MonorepoCheck.Text.Blank
import MonorepoCheck.Text.Digit
import MonorepoCheck.Text.Letter
import MonorepoCheck.Text.Search

/-!
Addresses that a model can be asked at: URLs with the scheme `http` or `https` and a host that can be
one. Slashes after the scheme may be missing or repeated, and control characters at the ends and
line ends anywhere are passed over.
-/
namespace MonorepoCheck.Address

def isControlOrSpace (c : Char) : Bool := c.toNat ≤ 0x20

/-- The address without what is passed over. -/
def clean (text : List Char) : List Char :=
  (Text.dropEndWhile isControlOrSpace (text.dropWhile isControlOrSpace)).filter fun c =>
    !(c == '\t' || c == '\n' || c == '\r')

def isSchemeChar (c : Char) : Bool :=
  Text.isAsciiLetter c || Text.isAsciiDigit c || c == '+' || c == '-' || c == '.'

/-- The scheme before the first colon, in upper case, and what follows the colon. -/
def scheme? (text : List Char) : Option (List Char × List Char) :=
  match text with
  | c :: _ =>
    if !Text.isAsciiLetter c then none
    else (Text.after? [':'] (text.dropWhile isSchemeChar)).map fun rest =>
      ((text.takeWhile isSchemeChar).map Text.upperAscii, rest)
  | [] => none

def isSlash (c : Char) : Bool := c == '/' || c == '\\'

def endsAuthority (c : Char) : Bool := isSlash c || c == '?' || c == '#'

/-- What stands between the slashes and the path. -/
def authority (rest : List Char) : List Char :=
  (rest.dropWhile isSlash).takeWhile fun c => !endsAuthority c

/-- The authority without a name and a password before its last `@`. -/
def withoutUser (authority : List Char) : List Char :=
  (authority.reverse.takeWhile (· != '@')).reverse

/-- The host and what follows it: a colon inside square brackets belongs to the host. -/
def cutHost (inBrackets : Bool) : List Char → List Char × List Char
  | [] => ([], [])
  | c :: rest =>
    if c = ':' ∧ !inBrackets then ([], c :: rest)
    else
      let inBrackets := if c = '[' then true else if c = ']' then false else inBrackets
      let (host, more) := cutHost inBrackets rest
      (c :: host, more)

def isPort (text : List Char) : Bool :=
  match text with
  | [] => true
  | ':' :: digits => digits.all Text.isAsciiDigit && Text.numeral digits ≤ 65535
  | _ => false

/-- The number that a part of a numeric host spells: decimal, octal after `0`, hexadecimal after
`0x`. -/
def hostNumber? (part : List Char) : Option Nat :=
  let inRadix (radix : Nat) (digits : List Char) : Option Nat :=
    digits.foldlM (fun value c => do
      let digit ← Text.hexValue? c
      if digit < radix then pure (value * radix + digit) else none) 0
  match part with
  | [] => none
  | '0' :: 'x' :: digits | '0' :: 'X' :: digits => inRadix 16 digits
  | '0' :: d :: digits => inRadix 8 (d :: digits)
  | digits => inRadix 10 digits

/-- The parts of a host between points, without an empty one at the end. -/
def hostParts (host : List Char) : List (List Char) :=
  let parts := Text.splitOn '.' host
  if parts.getLast? == some [] then parts.dropLast else parts

/-- Whether a host has to be read as numbers. -/
def endsInNumber (host : List Char) : Bool :=
  match (hostParts host).getLast? with
  | none => false
  | some part => (!part.isEmpty && part.all Text.isAsciiDigit) || (hostNumber? part).isSome

/-- Four numbers at most; the last one fills the places that are left. -/
def isNumericHost (host : List Char) : Bool :=
  let parts := hostParts host
  match parts.mapM hostNumber? with
  | none => false
  | some numbers =>
    numbers.length ≤ 4 && numbers.dropLast.all (· ≤ 255)
      && (numbers.getLast?.getD 0) < Nat.pow 256 (5 - numbers.length)

/-- A number of at most three digits below 256 without a zero in front. -/
def isByte (part : List Char) : Bool :=
  match Text.readNumeral? part with
  | some value => value ≤ 255 && (part.length == 1 || part.head? != some '0')
  | none => false

def isHexGroup (part : List Char) : Bool :=
  1 ≤ part.length && part.length ≤ 4 && part.all fun c => (Text.hexValue? c).isSome

/-- How many of the eight places a list of groups fills; four bytes with points may stand last. -/
def groupPlaces? (groups : List (List Char)) : Option Nat :=
  match groups.reverse with
  | [] => some 0
  | last :: before =>
    if !before.all isHexGroup then none
    else if isHexGroup last then some groups.length
    else
      let bytes := Text.splitOn '.' last
      if bytes.length = 4 ∧ bytes.all isByte then some (groups.length + 1) else none

/-- Cuts a text at the first double colon. -/
def cutDoubleColon : List Char → Option (List Char × List Char)
  | ':' :: ':' :: rest => some ([], rest)
  | c :: rest => (cutDoubleColon rest).map fun (before, after) => (c :: before, after)
  | [] => none

def colonGroups (text : List Char) : List (List Char) :=
  if text.isEmpty then [] else Text.splitOn ':' text

/-- Eight groups, of which a double colon leaves out one or more. -/
def isBracketedHost (inner : List Char) : Bool :=
  match cutDoubleColon inner with
  | none => groupPlaces? (colonGroups inner) == some 8
  | some (before, after) =>
    match (colonGroups before).all isHexGroup, groupPlaces? (colonGroups after) with
    | true, some places => (colonGroups before).length + places ≤ 7
    | _, _ => false

def isHost (host : List Char) : Bool :=
  match host with
  | [] => false
  | '[' :: rest => rest.getLast? == some ']' && isBracketedHost rest.dropLast
  | host =>
    match Domain.read? host with
    | some name =>
      !name.isEmpty && !name.contains '"' && (!endsInNumber name || isNumericHost name)
    | none => false

/-- The signs that paths and queries do not hold as they are. -/
def isEscaped (inQuery : Bool) (c : Char) : Bool :=
  isControlOrSpace c || 0x7F ≤ c.toNat || c == '"' || c == '<' || c == '>'
    || (if inQuery then c == '\'' else c == '\x60' || c == '\x7b' || c == '\x7d')

/-- The bytes of a path or a query with its escapes. -/
def escapedLength (text : List Char) : Nat :=
  let path := text.takeWhile (· != '?')
  let length (inQuery : Bool) (c : Char) : Nat :=
    if isEscaped inQuery c then 3 * (String.singleton c).utf8ByteSize else 1
  ((path.map (length false)) ++ ((text.drop path.length).map (length true))).foldl (· + ·) 0

/-- Bytes that an address may have. -/
def lengthLimit : Nat := 65534

/-- Whether the text is an address of the web. -/
def isWebAddress (text : String) : Bool :=
  match scheme? (clean text.toList) with
  | none => false
  | some (scheme, rest) =>
    let (host, port) := cutHost false (withoutUser (authority rest))
    let after := (rest.dropWhile isSlash).dropWhile fun c => !endsAuthority c
    let length := scheme.length + 3 + host.length + port.length + escapedLength after
    (scheme == "HTTP".toList || scheme == "HTTPS".toList) && isHost host && isPort port
      && length ≤ lengthLimit

end MonorepoCheck.Address
