import Grounding.Json.Scan

/-!
# Reading a JSON text

The reader goes through the text once.  Containers that are still open are kept in a list of frames,
innermost first, so the depth of a text costs no more than its length.
-/

namespace Grounding.Json

/-- How deep containers may nest, and how many digits an integer may have. -/
structure Limits where
  nesting : Nat
  digits : Option Nat

/-- The limits of a reader that has room for so many levels. -/
def Limits.within (nesting : Nat) : Limits := ⟨nesting, some numeralDigitLimit⟩

/-- A container that is still open: what it holds so far, last first, and for an object the name
whose value is being read. -/
inductive Frame where
  | array (done : List Json)
  | object (done : List (String × Json)) (name : String)

/-- What the reader looks for next: a value, or what may follow the value just read. -/
inductive Awaiting where
  | value
  | following (value : Json)

def scanName (c : Cursor) : Except Fault (String × Cursor) :=
  match c.rest with
  | [] => .error (.malformed .expectedName c.offset)
  | quote :: rest =>
    if quote == Text.doubleQuote then do
      let (name, c) ← scanString c.offset rest (c.offset + 1) .plain none []
      let c := c.skip
      match c.rest with
      | ':' :: rest => .ok (name, Cursor.skip ⟨rest, c.offset + 1⟩)
      | _ => .error (.malformed .expectedColon c.offset)
    else .error (.malformed .expectedName c.offset)

/-- Reads one value.  Every round takes at least one character of the text or ends the reading, so
`fuel` is never used up when it exceeds the length of the text. -/
def decodeLoop (limits : Limits) :
    Nat → Cursor → List Frame → Nat → Awaiting → Except Fault (Json × Cursor)
  | 0, c, _, _, _ => .error (.malformed .expectedValue c.offset)
  | fuel + 1, c, frames, depth, .value =>
    match c.rest with
    | [] => .error (.malformed .expectedValue c.offset)
    | '[' :: rest =>
      if limits.nesting ≤ depth then .error (.tooDeep .array)
      else
        let inner := Cursor.skip ⟨rest, c.offset + 1⟩
        match inner.rest with
        | ']' :: rest =>
          decodeLoop limits fuel ⟨rest, inner.offset + 1⟩ frames depth (.following (.arr []))
        | _ => decodeLoop limits fuel inner (.array [] :: frames) (depth + 1) .value
    | '{' :: rest =>
      if limits.nesting ≤ depth then .error (.tooDeep .object)
      else
        let inner := Cursor.skip ⟨rest, c.offset + 1⟩
        match inner.rest with
        | '}' :: rest =>
          decodeLoop limits fuel ⟨rest, inner.offset + 1⟩ frames depth (.following (.obj []))
        | _ =>
          match scanName inner with
          | .error fault => .error fault
          | .ok (name, c) =>
            decodeLoop limits fuel c (.object [] name :: frames) (depth + 1) .value
    | first :: rest =>
      if first == Text.doubleQuote then
        match scanString c.offset rest (c.offset + 1) .plain none [] with
        | .error fault => .error fault
        | .ok (s, c) => decodeLoop limits fuel c frames depth (.following (.str s))
      else
        match scanScalar limits.digits c with
        | .error fault => .error fault
        | .ok (value, c) => decodeLoop limits fuel c frames depth (.following value)
  | _ + 1, c, [], _, .following value => .ok (value, c)
  | fuel + 1, c, .array done :: frames, depth, .following value =>
    let c := c.skip
    match c.rest with
    | ']' :: rest =>
      decodeLoop limits fuel ⟨rest, c.offset + 1⟩ frames (depth - 1)
        (.following (.arr (value :: done).reverse))
    | ',' :: rest =>
      decodeLoop limits fuel (Cursor.skip ⟨rest, c.offset + 1⟩) (.array (value :: done) :: frames)
        depth .value
    | _ => .error (.malformed .expectedComma c.offset)
  | fuel + 1, c, .object done name :: frames, depth, .following value =>
    let c := c.skip
    match c.rest with
    | '}' :: rest =>
      decodeLoop limits fuel ⟨rest, c.offset + 1⟩ frames (depth - 1)
        (.following (.obj (settle ((name, value) :: done).reverse)))
    | ',' :: rest =>
      match scanName (Cursor.skip ⟨rest, c.offset + 1⟩) with
      | .error fault => .error fault
      | .ok (next, c) =>
        decodeLoop limits fuel c (.object ((name, value) :: done) next :: frames) depth .value
    | _ => .error (.malformed .expectedComma c.offset)

/-- The one value that a text holds, with separators around it. -/
def decodeText (limits : Limits) (text : List Char) : Except Fault Json :=
  match decodeLoop limits (text.length + 2) (Cursor.skip ⟨text, 0⟩) [] 0 .value with
  | .error fault => .error fault
  | .ok (value, c) =>
    let c := c.skip
    if c.rest.isEmpty then .ok value else .error (.malformed .extraData c.offset)

end Grounding.Json
