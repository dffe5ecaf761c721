import Grounding.Text.Parts
import Grounding.Text.Quoted

/-!
# Paths of URLs

A path is a row of segments between slashes.  Before a URL is used, its dot segments are resolved and
the characters that may not stand in a path are written as escapes of their bytes.
-/

namespace Grounding.Path

/-- Leaves out segments that are one dot, and with each segment of two dots also the one before it;
`done` holds what came before, last segment first. -/
def resolveDots (done : List (List Char)) : List (List Char) → List (List Char)
  | [] => done.reverse
  | segment :: rest =>
    if segment = ['.'] then resolveDots done rest
    else if segment = ['.', '.'] then
      resolveDots (if done = [[]] then done else done.tail) rest
    else resolveDots (segment :: done) rest

/-- A path without dot segments; it may be empty. -/
def withoutDots (path : List Char) : List Char :=
  List.intercalate ['/'] (resolveDots [] (Text.splitAtEach '/' path))

/-- A byte as URLs write it where it may not stand for itself. -/
def escapedByte (b : Nat) : List Char := '%' :: (Text.hexDigits 2 b).map Char.toUpper

/-- Printable ASCII that ends a path or must be escaped in it. -/
def marksToEscape : List Char :=
  " #<>?".toList ++ [Text.doubleQuote, Char.ofNat 0x60, Char.ofNat 0x7B, Char.ofNat 0x7D]

def isKept (c : Char) : Bool := c.toNat < 0x7F && !marksToEscape.contains c

/-- A path with escapes where it needs them.  Escapes that it has already stay as they are. -/
def escaped (path : List Char) : List Char :=
  path.flatMap fun c =>
    if isKept c then [c] else c.toString.toUTF8.toList.flatMap fun b => escapedByte b.toNat

end Grounding.Path
