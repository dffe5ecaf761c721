import Grounding.Number.Numeral

/-!
# Arguments of the probe

The probe takes one optional query and a few options.  Long options may be shortened as long as the
short form is unambiguous, and may carry their value after an equals sign.  Words are first told
apart, all of them, into options and plain words; then they are used up from left to right.
-/

namespace Grounding.Probe

/-- The options that take a value, and the one that does not. -/
inductive Name where
  | help
  | host
  | port
  | timeout
  | session
deriving DecidableEq

def longForms : List (String × Name) :=
  [("--help", .help), ("--host", .host), ("--port", .port), ("--timeout-ms", .timeout),
    ("--session-id", .session)]

/-- The forms that the arguments may take, in one line. -/
def usage : String :=
  "usage: probe [-h] [--host HOST] [--port PORT] [--timeout-ms TIMEOUT_MS] " ++
    "[--session-id SESSION_ID] [query]"

inductive Figure where
  | number (n : Int)
  /-- The option is there, but what is joined to it is no value. -/
  | nothing
deriving DecidableEq

structure Arguments where
  query : String := ""
  host : Option String := none
  port : Option Figure := none
  timeoutMs : Option Figure := none
  session : String := ""
deriving DecidableEq

/-- Reading the arguments may end the run: with help, or because they make no sense. -/
inductive Ended where
  | help
  | usage
deriving DecidableEq

inductive Word where
  | plain (text : String)
  /-- The first double dash; all words after it are plain. -/
  | separator
  /-- An option, with the value that is joined to it. -/
  | option (name : Name) (joined : Option String)
  /-- The short form of help, with what is joined to it. -/
  | shortHelp (joined : Option String)
  /-- It looks like an option, but there is none of that name. -/
  | unknown
deriving DecidableEq

def dropLineFeed (s : List Char) : List Char := if s.getLast? = some '\n' then s.dropLast else s

/-- A negative number is no option: a dash and digits, perhaps with a point before the last of
them, and perhaps a line feed at the end. -/
def isNegativeNumber (s : List Char) : Bool :=
  match dropLineFeed s with
  | '-' :: body =>
    let isDigit (c : Char) := (Text.digitValue? c).isSome
    match body.dropWhile isDigit with
    | [] => !body.isEmpty
    | '.' :: fraction => !fraction.isEmpty && fraction.all isDigit
    | _ => false
  | _ => false

/-- A text up to the first equals sign, and what follows it. -/
def splitEquals (s : List Char) : List Char × Option String :=
  match s.dropWhile (· != '=') with
  | [] => (s, none)
  | _ :: value => (s.takeWhile (· != '='), some (String.ofList value))

/-- The options that a shortened long form may mean. -/
def candidates (stem : List Char) : List Name :=
  (longForms.filter fun form => stem.isPrefixOf form.1.toList).map (·.2)

/-- A word that begins with two dashes and is more than that. -/
def longWord (s : List Char) : Except Ended (Option Word) :=
  let (stem, joined) := splitEquals s
  match longForms.find? fun form => form.1.toList == stem with
  | some form => .ok (some (.option form.2 joined))
  | none =>
    match candidates stem with
    | [] => .ok none
    | [name] => .ok (some (.option name joined))
    | _ => .error .usage

/-- A word that begins with one dash and is more than that. -/
def shortWord (s : List Char) : Option Word :=
  match s with
  | ['-', 'h'] => some (.shortHelp none)
  | '-' :: 'h' :: '=' :: value => some (.shortHelp (some (String.ofList value)))
  | '-' :: 'h' :: letters => some (.shortHelp (some (String.ofList letters)))
  | _ => none

/-- What a word is taken for, if it stands before the separator. -/
def classify (text : String) : Except Ended Word :=
  match text.toList with
  | '-' :: second :: rest =>
    let s := '-' :: second :: rest
    let known := if second = '-' then longWord s else .ok (shortWord s)
    match known with
    | .error ended => .error ended
    | .ok (some word) => .ok word
    | .ok none =>
      if isNegativeNumber s || s.contains ' ' then .ok (.plain text) else .ok .unknown
  | _ => .ok (.plain text)

/-- All words told apart.  An ambiguous option anywhere ends the run. -/
def classifyAll : List String → Except Ended (List Word)
  | [] => .ok []
  | text :: rest =>
    if text = "--" then .ok (.separator :: rest.map .plain)
    else
      match classify text with
      | .error ended => .error ended
      | .ok word =>
        match classifyAll rest with
        | .error ended => .error ended
        | .ok words => .ok (word :: words)

/-- Arguments read so far: whether the query was given, and whether some word had no use. -/
structure Progress where
  arguments : Arguments
  queryTaken : Bool
  leftOver : Bool

/-- A double dash is no value, even where it is joined to an option. -/
def noValue : String := "--"

def integerOption (text : String) : Except Ended Figure :=
  if text = noValue then .ok .nothing
  else
    match readInteger text with
    | .ok n => .ok (.number n)
    | .error _ => .error .usage

/-- An option with its value.  Without a value a text is as if it had not been given. -/
def setOption (a : Arguments) (name : Name) (value : String) : Except Ended Arguments :=
  match name with
  | .help => .error .usage
  | .host => .ok { a with host := if value = noValue then none else some value }
  | .session => .ok { a with session := if value = noValue then "" else value }
  | .port =>
    match integerOption value with
    | .error ended => .error ended
    | .ok n => .ok { a with port := some n }
  | .timeout =>
    match integerOption value with
    | .error ended => .error ended
    | .ok n => .ok { a with timeoutMs := some n }

/-- Plain words after the last option.  The query may stand on either side of the separator. -/
def finishPlain (p : Progress) : List Word → Progress
  | [] => p
  | .plain text :: rest =>
    if p.queryTaken then { p with leftOver := true }
    else
      let taken := { p with arguments := { p.arguments with query := text }, queryTaken := true }
      match rest with
      | .separator :: more => { taken with leftOver := p.leftOver || !more.isEmpty }
      | _ => { taken with leftOver := p.leftOver || !rest.isEmpty }
  | .separator :: rest =>
    if p.queryTaken then { p with leftOver := true }
    else
      match rest with
      | .plain text :: more =>
        { arguments := { p.arguments with query := text }
          queryTaken := true
          leftOver := p.leftOver || !more.isEmpty }
      | _ => p
  | _ => { p with leftOver := true }

def isOption : Word → Bool
  | .option .. | .shortHelp _ | .unknown => true
  | _ => false

/-- How the short form of help ends a run.  What is joined to it is read as more short forms, and `h` is
the only one there is. -/
def endOfShortHelp : Option String → Ended
  | none => .help
  | some letters =>
    if letters ≠ "" ∧ letters.toList.all (· == 'h') then .help else .usage

def consume (p : Progress) : List Word → Except Ended Progress
  | [] => .ok p
  | .option name (some value) :: rest =>
    match setOption p.arguments name value with
    | .error ended => .error ended
    | .ok a => consume { p with arguments := a } rest
  | .option .help none :: _ => .error .help
  | .option name none :: .plain value :: rest =>
    match setOption p.arguments name value with
    | .error ended => .error ended
    | .ok a => consume { p with arguments := a } rest
  | .option _ none :: _ => .error .usage
  | .shortHelp joined :: _ => .error (endOfShortHelp joined)
  | .unknown :: rest => consume { p with leftOver := true } rest
  | .separator :: rest => .ok (finishPlain p (.separator :: rest))
  | .plain text :: rest =>
    if !rest.any isOption then .ok (finishPlain p (.plain text :: rest))
    else if p.queryTaken then consume { p with leftOver := true } rest
    else consume { p with arguments := { p.arguments with query := text }, queryTaken := true } rest

def readArguments (args : List String) : Except Ended Arguments :=
  match classifyAll args with
  | .error ended => .error ended
  | .ok words =>
    match consume ⟨{}, false, false⟩ words with
    | .error ended => .error ended
    | .ok p => if p.leftOver then .error .usage else .ok p.arguments

end Grounding.Probe
