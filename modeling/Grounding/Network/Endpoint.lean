import Grounding.Notices
import Grounding.Number.Numeral

/-!
# Where the retrieval service lives

The host setting is written by hand: a bare host, a host with a port, or a full URL.  A URL prefix
fixes both the scheme and its default port, whatever port is configured; a bare host is plain HTTP
on the configured port, unless it ends in a port of its own.
-/

namespace Grounding

inductive Scheme where
  | http
  | https
deriving DecidableEq

namespace Scheme

def name : Scheme → String
  | .http => "http"
  | .https => "https"

def lead (s : Scheme) : List Char := (s.name ++ "://").toList

def defaultPort : Scheme → Int
  | .http => 80
  | .https => 443

end Scheme

structure Endpoint where
  scheme : Scheme
  host : String
  port : Int
deriving DecidableEq

namespace Endpoint

def tls (e : Endpoint) : Bool := e.scheme == .https

/-- The URL of the service, without a path.  A port with too many digits cannot be written. -/
def baseUrl (e : Endpoint) : Except NumeralFault String :=
  match writeInteger e.port with
  | .error fault => .error fault
  | .ok port => .ok (e.scheme.name ++ "://" ++ e.host ++ ":" ++ port)

inductive Fault where
  | empty
  | path
  | port (fault : NumeralFault)
deriving DecidableEq

def dropSlash (s : List Char) : List Char :=
  if s.getLast? = some '/' then s.dropLast else s

/-- The scheme that a URL prefix forces, and the text after the prefix. -/
def takeScheme (s : List Char) : Option Scheme × List Char :=
  if Scheme.https.lead.isPrefixOf s then (some .https, s.drop Scheme.https.lead.length)
  else if Scheme.http.lead.isPrefixOf s then (some .http, s.drop Scheme.http.lead.length)
  else (none, s)

def splitLastColon? (s : List Char) : Option (List Char × List Char) :=
  if s.contains ':' then
    some ((s.reverse.dropWhile (· != ':')).tail.reverse, (s.reverse.takeWhile (· != ':')).reverse)
  else none

/-- A host and the port it names itself.  A colon inside an address that is not in brackets does not
start a port. -/
def splitPort? (s : List Char) : Option (List Char × List Char) :=
  match splitLastColon? s with
  | some (host, port) =>
    if Text.isDigitRun port && !host.isEmpty && (!host.contains ':' || host.getLast? == some ']')
    then some (host, port)
    else none
  | none => none

/-- The host of a text without prefix and slash, and the port that the text fixes. -/
def hostAndPort (scheme : Option Scheme) (s : List Char) :
    Except Fault (List Char × Option Int) :=
  match scheme with
  | some scheme => .ok (s, some scheme.defaultPort)
  | none =>
    match splitPort? s with
    | none => .ok (s, none)
    | some (host, own) =>
      match readInteger (String.ofList own) with
      | .error fault => .error (.port fault)
      | .ok own => .ok (host, some own)

end Endpoint

/-- What a host text says: the scheme, the host and, if it fixes one, the port. -/
structure Site where
  scheme : Scheme
  host : String
  port : Option Int
deriving DecidableEq

def Site.ofHost (host : String) : Except Endpoint.Fault Site :=
  let (scheme, rest) := Endpoint.takeScheme (Text.trim Text.isBlank host.toList)
  match Endpoint.hostAndPort scheme (Endpoint.dropSlash rest) with
  | .error fault => .error fault
  | .ok (name, port) =>
    if name.isEmpty then .error .empty
    else if name.contains '/' then .error .path
    else .ok ⟨scheme.getD .http, String.ofList name, port⟩

namespace Endpoint

/-- The endpoint that a host text and a configured port describe. -/
def ofHost (host : String) (port : Int) : Except Fault Endpoint :=
  match Site.ofHost host with
  | .error fault => .error fault
  | .ok site => .ok ⟨site.scheme, site.host, site.port.getD port⟩

def prefixPort? (host : String) : Option Int :=
  (takeScheme (Text.trim Text.isBlank host.toList)).1.map Scheme.defaultPort

/-- A URL prefix overrules a configured port, which deserves a notice when the two differ. -/
def overruledPort (host : String) (port : Int) : Bool :=
  match prefixPort? host with
  | some fixed => fixed != port
  | none => false

/-- The endpoint of a host setting, which may be absent. -/
def resolve (host : Option String) (port : Int) : Noted (Except Fault Endpoint) :=
  ⟨ofHost (host.getD "") port, if overruledPort (host.getD "") port then 1 else 0⟩

end Endpoint

end Grounding
