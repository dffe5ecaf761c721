import Grounding.Network.Address
import Grounding.Platform

/-!
# What a client is bound to

A plain URL names a host within ASCII, a port and perhaps a path, and is checked as an address.  In any
other there may be a user, a query or a fragment, or a name that is spelled otherwise on the network; what
becomes of it is up to the client library.  Either way the client goes by the scheme of its URL.
-/

namespace Grounding

namespace Address

/-- A character that has an encoding and is no mark of a user, a query or a fragment. -/
def isPlainChar (c : Char) : Bool :=
  c.toNat < Text.mark.toNat && c != '@' && c != '?' && c != '#'

/-- A URL, without its scheme, that an address is made of. -/
def isPlain (rest : String) : Bool :=
  rest.toList.all isPlainChar &&
    (splitHost (rest.toList.takeWhile (· != '/'))).1.all (·.toNat < 0x80)

/-- The part of the URL of a request that is longer than any URL may be. -/
def overlongPart? (a : Address) (path : String) : Option String :=
  if longestUrl < (a.hostText ++ a.portText).length then some "authority"
  else if longestUrl < (a.path ++ path).length then some "path"
  else none

/-- Where a request for a path goes.  Escapes may have made a URL too long that was not. -/
def sending (a : Address) (path : String) : Sending :=
  match a.overlongPart? path with
  | some part =>
    .fails ("URL component " ++ Text.singleQuote.toString ++ part ++ Text.singleQuote.toString ++
      " too long")
  | none => .url (a.target.text ++ path)

end Address

def augmentPath : String := "/api/v1/llama/augment"

def healthPath : String := "/api/v1/llama/health"

inductive Binding where
  | address (address : Address)
  | foreign (scheme : Scheme) (url : ForeignUrl)
deriving DecidableEq

namespace Binding

def scheme : Binding → Scheme
  | .address a => a.scheme
  | .foreign scheme _ => scheme

/-- The port that is named; the default port of the scheme is not. -/
def port? : Binding → Option Int
  | .address a => a.port
  | .foreign _ url => url.port

def text : Binding → String
  | .address a => a.text
  | .foreign _ url => url.text

def augment : Binding → Sending
  | .address a => a.sending augmentPath
  | .foreign _ url => url.augment

def health : Binding → Sending
  | .address a => a.sending healthPath
  | .foreign _ url => url.health

inductive Fault where
  | address (fault : Address.Fault)
  | foreign (fault : ForeignFault)
deriving DecidableEq

/-- Binds a client to a URL made of a scheme and of an authority with or without a path. -/
def ofUrl (platform : Platform) (scheme : Scheme) (rest : String) : Except Fault Binding :=
  if Address.isPlain rest then
    match Address.ofUrl scheme rest with
    | .error fault => .error (.address fault)
    | .ok a => .ok (.address a)
  else
    match platform.foreignUrl (scheme.name ++ "://" ++ rest) with
    | .error fault => .error (.foreign fault)
    | .ok url => .ok (.foreign scheme url)

end Binding

end Grounding
