import Grounding.Text.Point
import Grounding.Text.Printable

/-!
# Quoted texts

Messages show a text between quotes, so that blanks and controls in it can be seen.  Single quotes
are used, unless the text holds a single quote and no double one.  The enclosing quote and the
backslash are escaped; tab, line feed and carriage return have letters; any other character that
cannot be printed is shown by its number.
-/

namespace Grounding.Text

/-- The lower-case hexadecimal digits of a number, most significant first, in a fixed width. -/
def hexDigits : Nat → Nat → List Char
  | 0, _ => []
  | width + 1, n => hexDigits width (n / 16) ++ [Nat.digitChar (n % 16)]

def singleQuote : Char := Char.ofNat 0x27

def doubleQuote : Char := Char.ofNat 0x22

def backslash : Char := Char.ofNat 0x5C

def quoteFor (s : List Char) : Char :=
  if s.contains singleQuote && !s.contains doubleQuote then doubleQuote else singleQuote

/-- How one code point stands between the given quotes. -/
def quotedPoint (quote : Char) (n : Nat) : List Char :=
  if n == quote.toNat || n == backslash.toNat then [backslash, Char.ofNat n]
  else if n == '\t'.toNat then [backslash, 't']
  else if n == '\n'.toNat then [backslash, 'n']
  else if n == '\r'.toNat then [backslash, 'r']
  else if isPrintable n then [Char.ofNat n]
  else if n < 0x100 then backslash :: 'x' :: hexDigits 2 n
  else if n < 0x10000 then backslash :: 'u' :: hexDigits 4 n
  else backslash :: 'U' :: hexDigits 8 n

def quoted (s : String) : String :=
  let quote := quoteFor s.toList
  String.ofList (quote :: (points s.toList).flatMap (quotedPoint quote) ++ [quote])

end Grounding.Text
