import Grounding.Network.Endpoint
import Grounding.Network.Path

/-!
# Checked addresses

A client is bound to an address: the scheme, host and port of a URL after the checks that any URL
must pass.  The host ends at the first colon unless it is in brackets, and all that follows it, up to
the first slash, must be a port.  From that slash on there is a path, to which requests add theirs.
-/

namespace Grounding

structure Address where
  scheme : Scheme
  host : String
  port : Option Int
  /-- What the path of every request begins with. -/
  path : String
deriving DecidableEq

namespace Address

inductive Fault where
  | tooLong
  | control (character : Char) (position : Nat)
  | notIPv4 (host : String)
  | notIPv6 (host : String)
  | badPort (text : String)
deriving DecidableEq

def Fault.message : Fault → String
  | .tooLong => "URL too long"
  | .control character position =>
    "Invalid non-printable ASCII character in URL, " ++ Text.quoted character.toString ++
      " at position " ++ toString position ++ "."
  | .notIPv4 host => "Invalid IPv4 address: " ++ Text.quoted host
  | .notIPv6 host => "Invalid IPv6 address: " ++ Text.quoted host
  | .badPort text => "Invalid port: " ++ Text.quoted text

def longestUrl : Nat := 65536

def isControl (c : Char) : Bool := c.toNat < 0x20 || c.toNat == 0x7F

/-- Whether a host is meant as an IPv4 address: four runs of digits with a point between. -/
def looksIPv4 (host : List Char) : Bool :=
  let parts := Text.splitAtEach '.' host
  parts.length == 4 && parts.all fun part => !part.isEmpty && part.all Text.isAsciiDigit

/-- One number of an IPv4 address: at most 255 and without a leading zero. -/
def isOctet (s : List Char) : Bool :=
  !s.isEmpty && s.all Text.isAsciiDigit && s.length ≤ 3 && (s.length = 1 || s.head? != some '0') &&
    Numeral.ofDigits (s.map fun c => (Text.asciiDigitValue? c).getD 0) ≤ 255

def isIPv4 (host : List Char) : Bool :=
  let octets := Text.splitAtEach '.' host
  octets.length == 4 && octets.all isOctet

def isGroup (s : List Char) : Bool :=
  !s.isEmpty && s.length ≤ 4 && s.all fun c => (Text.hexDigitValue? c).isSome

/-- How many groups a list of parts makes.  Only the last part of an address may be dotted; it counts
for two groups. -/
def groupCount? (dotted : Bool) : List (List Char) → Option Nat
  | [] => some 0
  | [part] =>
    if isGroup part then some 1 else if dotted && isIPv4 part then some 2 else none
  | part :: rest => if isGroup part then (groupCount? dotted rest).map (· + 1) else none

/-- The groups of a text between colons; an empty text has none. -/
def groupsOf? (dotted : Bool) (s : List Char) : Option Nat :=
  if s.isEmpty then some 0 else groupCount? dotted (Text.splitAtEach ':' s)

def splitGap : List Char → Option (List Char × List Char)
  | ':' :: ':' :: rest => some ([], rest)
  | c :: rest => (splitGap rest).map fun (before, after) => (c :: before, after)
  | [] => none

/-- Eight groups, or fewer around one double colon. -/
def isIPv6Groups (s : List Char) : Bool :=
  match splitGap s with
  | none => groupsOf? true s == some 8
  | some (before, after) =>
    match groupsOf? false before, groupsOf? true after with
    | some m, some n => m + n ≤ 7
    | _, _ => false

/-- An IPv6 address, perhaps with a zone after a percent sign. -/
def isIPv6 (s : List Char) : Bool :=
  let zone := s.dropWhile (· != '%')
  isIPv6Groups (s.takeWhile (· != '%')) &&
    (zone.isEmpty || (!zone.tail.isEmpty && !zone.tail.contains '%'))

/-- Punctuation that stands for itself in a host. -/
def keptMarks : List Char :=
  "-._~!$&()*+,;=%|".toList ++
    [Text.singleQuote, Text.doubleQuote, Text.backslash, Char.ofNat 0x60, Char.ofNat 0x7B,
      Char.ofNat 0x7D]

def keptInHost (c : Char) : Bool := c.isAlphanum || keptMarks.contains c || 0x80 ≤ c.toNat

/-- How one character of a host name is written in a URL. -/
def encodedChar (c : Char) : List Char :=
  if keptInHost c then [c] else Path.escapedByte c.toNat

def encodeHost (host : List Char) : Except Fault (List Char) :=
  if looksIPv4 host then
    if isIPv4 host then .ok host else .error (.notIPv4 (String.ofList host))
  else if host.head? == some '[' && host.getLast? == some ']' then
    let inner := host.tail.dropLast
    if isIPv6 inner then .ok inner else .error (.notIPv6 (String.ofList host))
  else .ok ((host.map Char.toLower).flatMap encodedChar)

/-- The host part of an authority, and what follows it: up to the last closing bracket if the
authority begins with an opening one, otherwise up to the first colon. -/
def splitHost (authority : List Char) : List Char × List Char :=
  if authority.head? == some '[' && authority.contains ']' then
    let tail := (authority.reverse.takeWhile (· != ']')).reverse
    (authority.take (authority.length - tail.length), tail)
  else (authority.takeWhile (· != ':'), authority.dropWhile (· != ':'))

def readPort (rest : List Char) : Except Fault (Option Int) :=
  let text := match rest with
    | ':' :: more => more
    | _ => rest
  if text.isEmpty then .ok none
  else
    match readInteger (String.ofList text) with
    | .ok port => .ok (some port)
    | .error _ => .error (.badPort (String.ofList text))

/-- The first control character of a URL and where it stands. -/
def firstControl? (url : List Char) : Option (Char × Nat) :=
  (url.find? isControl).map fun c => (c, url.idxOf c)

/-- The address that an authority names.  The default port of the scheme is left out. -/
def ofAuthority (scheme : Scheme) (authority : List Char) : Except Fault Address :=
  let (host, rest) := splitHost authority
  match encodeHost host with
  | .error fault => .error fault
  | .ok host =>
    match readPort rest with
    | .error fault => .error fault
    | .ok port =>
      .ok ⟨scheme, String.ofList host, if port = some scheme.defaultPort then none else port, ""⟩

/-- What keeps a text from being a URL, whatever its parts are. -/
def urlFault? (url : List Char) : Option Fault :=
  if longestUrl < url.length then some .tooLong
  else (firstControl? url).map fun (c, position) => .control c position

/-- What requests begin with when a URL has the given path: the path itself, without one slash at its
end, since theirs begins with one. -/
def basePath (path : List Char) : String :=
  String.ofList (Endpoint.dropSlash (Path.escaped (Path.withoutDots path)))

/-- Checks a URL made of a scheme and of an authority with or without a path. -/
def ofUrl (scheme : Scheme) (rest : String) : Except Fault Address :=
  match urlFault? (scheme.name ++ "://" ++ rest).toList with
  | some fault => .error fault
  | none =>
    match ofAuthority scheme (rest.toList.takeWhile (· != '/')) with
    | .error fault => .error fault
    | .ok address => .ok { address with path := basePath (rest.toList.dropWhile (· != '/')) }

/-- The host with brackets where it needs them. -/
def hostText (a : Address) : String :=
  if a.host.toList.contains ':' then "[" ++ a.host ++ "]" else a.host

def portText (a : Address) : String :=
  match a.port with
  | some port => ":" ++ toString port
  | none => ""

def text (a : Address) : String :=
  a.scheme.name ++ "://" ++ a.hostText ++ a.portText ++ a.path

/-- The address as requests write it: the name of a host in lower case, the digits of its escapes
included.  An IPv6 address stays as it is. -/
def target (a : Address) : Address :=
  if a.host.toList.contains ':' then a
  else { a with host := String.ofList (a.host.toList.map Char.toLower) }

end Address

end Grounding
