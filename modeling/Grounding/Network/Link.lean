import Grounding.Network.Binding
import Grounding.Network.Timeout
import Grounding.Settings.Values

/-!
# The link to the service

A link is an endpoint together with the client that is bound to it.  Clients are numbered in the
order in which they are opened, so that it can be said which of them is open, and whether two links
are the same.
-/

namespace Grounding

structure Client where
  number : Nat
  binding : Binding
  timeout : Binary64
deriving DecidableEq

structure Link where
  endpoint : Endpoint
  /-- The URL of the endpoint as it was put together. -/
  base : String
  client : Client
deriving DecidableEq

/-- Why the host setting cannot be turned into a client. -/
inductive HostFault where
  | empty (configured : Option String)
  | path (configured : Option String)
  | address (configured : String) (fault : Address.Fault)
  /-- The client library refuses the URL of the host. -/
  | refused (configured : String) (message : String)
  /-- The configured port is neither a number nor a text. -/
  | port (kind : String)
deriving DecidableEq

def shownSetting : Option String → String
  | some s => Text.quoted s
  | none => "None"

def HostFault.message : HostFault → String
  | .empty configured => "RAG host is empty (configured " ++ shownSetting configured ++ ")"
  | .path configured => "RAG host must not contain a path: " ++ shownSetting configured
  | .address configured fault =>
    "Invalid RAG host " ++ Text.quoted configured ++ ": " ++ fault.message
  | .refused configured message =>
    "Invalid RAG host " ++ Text.quoted configured ++ ": " ++ message
  | .port kind => "Invalid port: " ++ kind

/-- Why no link can be built.  Only the first kind is a matter of the host setting alone. -/
inductive LinkFault where
  | host (fault : HostFault)
  | numeral (fault : NumeralFault)
  | timeout (fault : TimeoutFault)
  /-- The host setting is there but no text. -/
  | hostNotText (kind : String)
  /-- The client library fails at the URL of the host, and not by refusing it. -/
  | library (message : String)
deriving DecidableEq

def LinkFault.message : LinkFault → String
  | .host fault => fault.message
  | .numeral fault => fault.message
  | .timeout fault => fault.message
  | .hostNotText kind =>
    Text.singleQuote.toString ++ kind ++ Text.singleQuote.toString ++
      " object has no attribute " ++ Text.singleQuote.toString ++ "strip" ++
      Text.singleQuote.toString
  | .library message => message

/-- A fault of the endpoint, with the setting that caused it. -/
def Endpoint.Fault.toLinkFault (configured : Option String) : Endpoint.Fault → LinkFault
  | .empty => .host (.empty configured)
  | .path => .host (.path configured)
  | .port fault => .numeral fault

/-- A fault of the URL of a host setting. -/
def Binding.Fault.toLinkFault (configured : String) : Binding.Fault → LinkFault
  | .address fault => .host (.address configured fault)
  | .foreign (.refused message) => .host (.refused configured message)
  | .foreign (.failed message) => .library message

namespace Link

/-- The host setting as a text; nothing at all counts as an absent host. -/
def hostText : Json → Except LinkFault (Option String)
  | .str host => .ok (some host)
  | v => if v.isNothing then .ok none else .error (.hostNotText v.kind)

/-- Whether a URL prefix of the host overrules the configured port. -/
def overruled (host : Option String) (port : Json) : Bool :=
  match Endpoint.prefixPort? (host.getD "") with
  | some fixed => !(Json.int fixed).same port
  | none => false

/-- The site as it can be used: without TLS support an HTTPS site falls back to plain HTTP on the same
port. -/
def usable (tls : Bool) (site : Site) : Site :=
  if site.scheme == .https && !tls then { site with scheme := .http } else site

/-- The port in the URL of a site: its own, or the configured one as it is written.  Only numbers and
texts can be written there. -/
def portText? (site : Site) (configured : Json) : Except NumeralFault (Option String) :=
  match site.port, configured with
  | some port, _ | none, .int port =>
    match writeInteger port with
    | .error fault => .error fault
    | .ok text => .ok (some text)
  | none, .str text => .ok (some text)
  | none, _ => .ok none

/-- The port of the endpoint: the site's own, or the configured number.  A text says what the client
makes of it. -/
def portNumber (site : Site) (configured : Json) (binding : Binding) : Int :=
  match site.port, configured with
  | some port, _ | none, .int port => port
  | none, _ => binding.port?.getD site.scheme.defaultPort

def connect (platform : Platform) (values : Settings.Values) (host : String) (number : Nat)
    (site : Site) : Except LinkFault Link :=
  match portText? site values.port with
  | .error fault => .error (.numeral fault)
  | .ok port =>
    match timeoutOf values.timeoutMs with
    | .error fault => .error (.timeout fault)
    | .ok timeout =>
      match port with
      | none => .error (.host (.port values.port.kind))
      | some port =>
        let authority := site.host ++ ":" ++ port
        match Binding.ofUrl platform site.scheme authority with
        | .error fault => .error (fault.toLinkFault host)
        | .ok binding =>
          .ok {
            endpoint := ⟨site.scheme, site.host, portNumber site values.port binding⟩
            base := site.scheme.name ++ "://" ++ authority
            client := ⟨number, binding, timeout⟩ }

/-- Builds the link that settings describe, with a client of the given number. -/
def build (platform : Platform) (values : Settings.Values) (number : Nat) :
    Noted (Except LinkFault Link) :=
  match hostText values.host with
  | .error fault => ⟨.error fault, 0⟩
  | .ok host =>
    let notices := if overruled host values.port then 1 else 0
    match Site.ofHost (host.getD "") with
    | .error fault => ⟨.error (fault.toLinkFault host), notices⟩
    | .ok site =>
      let fallback := if site.scheme == .https && !platform.tls then 1 else 0
      ⟨connect platform values (host.getD "") number (usable platform.tls site), notices + fallback⟩

end Link

end Grounding
