import Grounding.Json.Sent

/-!
# What a gateway runs on

The system and the libraries around a gateway settle some things that nothing here can decide: whether
there is TLS, what the client library makes of a URL that is not plain, how a name without an encoding is
shown in a response, and which texts can be printed.
-/

namespace Grounding

/-- What becomes of a request that is to be made: it goes to a URL, or making it fails. -/
inductive Sending where
  | url (text : String)
  | fails (detail : String)
deriving DecidableEq

/-- What the client library makes of a base URL that is not plain. -/
structure ForeignUrl where
  text : String
  /-- Its port, unless it is the default port of its scheme. -/
  port : Option Int
  augment : Sending
  health : Sending
deriving DecidableEq

inductive ForeignFault where
  /-- The library refuses the URL. -/
  | refused (message : String)
  /-- The library fails in another way. -/
  | failed (message : String)
deriving DecidableEq

structure Platform where
  /-- Whether HTTPS can be spoken at all. -/
  tls : Bool
  /-- A base URL with a user, a query, a fragment or a host beyond ASCII in it, as the client library reads
  it. -/
  foreignUrl : String → Except ForeignFault ForeignUrl
  /-- How a member name without an encoding is shown in a response, if it does not spoil it. -/
  shownName? : String → Option String
  /-- Why standard output does not take a text. -/
  unprintable? : String → Option String

namespace Platform

/-- Three replacement characters for each half, one for every byte that it would take. -/
def replacedHalves (name : String) : String :=
  String.ofList (name.toList.flatMap fun c =>
    if Text.standsForHalf c then List.replicate 3 (Char.ofNat 0xFFFD) else [c])

/-- A platform with TLS and UTF-8 output, whose client library takes plain URLs only. -/
def usual : Platform where
  tls := true
  foreignUrl _ := .error (.refused "the URL is not plain")
  shownName? name := some (replacedHalves name)
  unprintable? text := if Text.isWhole text then none else some (Json.Torn.ofText text).message

end Platform

end Grounding
