import Grounding.Network.Address

/-!
# Targets of calls

A call names its target as a path or as a URL.  A path is taken from the root whether or not it begins
there; of a URL only the path matters, though the rest must be sound.  A query and a fragment are
dropped, and dot segments and escapes are resolved before paths are compared.
-/

namespace Grounding.Http.Target

inductive Fault where
  | url (fault : Address.Fault)
  /-- A path that is meant as a path begins with two slashes. -/
  | doubleSlash
  /-- A path that is meant as a path begins with a colon. -/
  | colon
  /-- A URL with a host has a scheme other than HTTP. -/
  | scheme (name : String)
deriving DecidableEq

def Fault.message : Fault → String
  | .url fault => fault.message
  | .doubleSlash => "Relative URLs cannot have a path starting with '//'"
  | .colon => "Relative URLs cannot have a path starting with ':'"
  | .scheme name => Text.quoted name

/-- A target taken apart.  What it does not name is empty. -/
structure Reference where
  /-- The scheme in lower case. -/
  scheme : List Char
  authority : List Char
  path : List Char

def bare (target : List Char) : List Char := target.takeWhile fun c => c != '?' && c != '#'

def mayStandInScheme (c : Char) : Bool := c.isAlphanum || c == '+' || c == '.' || c == '-'

/-- The scheme before the first colon, and what follows.  A scheme begins with a letter, but nothing
at all may stand there too. -/
def takeScheme (s : List Char) : List Char × List Char :=
  let name := s.takeWhile mayStandInScheme
  match s.dropWhile mayStandInScheme with
  | ':' :: rest =>
    match name with
    | [] => ([], rest)
    | c :: _ => if c.isAlpha then (name.map Char.toLower, rest) else ([], s)
  | _ => ([], s)

def Reference.ofTarget (target : List Char) : Reference :=
  let (scheme, rest) := takeScheme (bare target)
  match rest with
  | '/' :: '/' :: rest => ⟨scheme, rest.takeWhile (· != '/'), rest.dropWhile (· != '/')⟩
  | path => ⟨scheme, [], path⟩

/-- What an authority says before and after the last at sign. -/
def splitUser (authority : List Char) : List Char × List Char :=
  ((authority.reverse.dropWhile (· != '@')).tail.reverse,
    (authority.reverse.takeWhile (· != '@')).reverse)

def rooted (path : List Char) : List Char := '/' :: path.dropWhile (· == '/')

/-- Stands for a byte that is not read. -/
def replacement : Char := Char.ofNat 0xFFFD

/-- A text with its percent escapes read.  No path that matters has other than ASCII characters, so
every byte beyond them reads as the replacement character. -/
def unescape : List Char → List Char
  | '%' :: a :: b :: rest =>
    match Text.hexDigitValue? a, Text.hexDigitValue? b with
    | some high, some low =>
      (if high < 8 then Char.ofNat (high * 16 + low) else replacement) :: unescape rest
    | _, _ => '%' :: unescape (a :: b :: rest)
  | c :: rest => c :: unescape rest
  | [] => []

/-- A path as it is compared.  Escapes are read on the way out and once more on the way in. -/
def resolved (path : List Char) : List Char :=
  match Path.withoutDots path with
  | [] => ['/']
  | path => unescape (unescape path)

/-- The path of a reference whose authority names the given user and address. -/
def pathOf (r : Reference) (user : List Char) (address : Address) : Except Fault (List Char) :=
  if r.scheme.isEmpty && user.isEmpty && address.host == "" && address.port.isNone then
    if ['/', '/'].isPrefixOf r.path then .error .doubleSlash
    else if r.path.head? = some ':' then .error .colon
    else .ok (resolved (rooted r.path))
  else if r.scheme.isEmpty || address.host == "" then
    .ok (resolved (rooted (Path.withoutDots r.path)))
  else if r.scheme = "http".toList ∨ r.scheme = "https".toList then .ok (resolved r.path)
  else .error (.scheme (String.ofList r.scheme))

def path (target : String) : Except Fault (List Char) :=
  match Address.urlFault? target.toList with
  | some fault => .error (.url fault)
  | none =>
    let r := Reference.ofTarget target.toList
    let (user, server) := splitUser r.authority
    match Address.ofAuthority .http server with
    | .error fault => .error (.url fault)
    | .ok address => pathOf r user address

def dropSlashes (path : List Char) : List Char := (path.reverse.dropWhile (· == '/')).reverse

end Grounding.Http.Target
