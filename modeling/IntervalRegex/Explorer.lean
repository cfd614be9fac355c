import IntervalRegex.Command.Compile

/-!
# The explorer

A session of lines. A line installs a matcher or tests an input against the one that is installed; a
line that fails leaves it in place.
-/

namespace IntervalRegex.Explorer

def usage : String :=
  "usage: range min max   - print regex for range\n" ++
  "       cidr list       - parse CIDR list and print regex\n" ++
  "       pattern regex   - install a raw regex\n" ++
  "       match input     - after cidr, range or pattern, test against an input\n" ++
  "       .               - exit"

inductive Outcome
  | compiled
  | matched (verdict : Bool)
  | noPattern
  | usage
deriving DecidableEq, Repr

/-- What a line asks for. -/
inductive Request
  | interval (argument : List Char)
  | list (argument : List Char)
  | regex (argument : List Char)
  | test (input : List Char)
  /-- A line that begins with no verb. -/
  | bare (line : List Char)
  | blank
deriving DecidableEq, Repr

/-- Verbs are read in any ASCII case; blank characters around the verb and its argument do not
count. -/
def Request.read (line : String) : Request :=
  let line := Text.trim line.toList
  let (verb, rest) := Text.firstWord line
  let argument := Text.trim rest
  match String.ofList (verb.map Char.toLower) with
  | "range" => .interval argument
  | "cidr" => .list argument
  | "pattern" => .regex argument
  | "match" => .test argument
  | "" => .blank
  | _ => .bare line

/-- Exactly two integers. -/
def readBounds (argument : List Char) : Option (Int × Int) :=
  match Text.words argument with
  | [min, max] => do return (← Text.readInt64 min, ← Text.readInt64 max)
  | _ => none

/-- The installed matcher, if there is one. -/
abbrev Session := Option Matcher

structure Step where
  events : List Event
  outcome : Except Failure Outcome
  session : Session

/-- Installs what was compiled. -/
def Step.ofRun (session : Session) (run : Run Matcher) : Step :=
  match run.result with
  | .ok matcher => ⟨run.events, .ok .compiled, some matcher⟩
  | .error failure => ⟨run.events, .error failure, session⟩

def Step.ofUsage (session : Session) (text : String) : Step :=
  ⟨[Message.print text], .ok .usage, session⟩

/-- Tests an input against the installed matcher. -/
def test (session : Session) (input : String) : Step :=
  match session with
  | some matcher =>
    let verdict := matcher.accepts input
    ⟨[Message.verdict input verdict], .ok (.matched verdict), session⟩
  | none => ⟨[Message.noPattern], .ok .noPattern, session⟩

/-- Answers one line. -/
def execute (options : Options) (session : Session) (line : String) : Step :=
  match Request.read line with
  | .interval argument =>
    match readBounds argument with
    | some (min, max) => .ofRun session (Compile.interval min max options)
    | none => .ofUsage session "usage: range min max"
  | .list argument => .ofRun session (Compile.tokenList (String.ofList argument) options)
  | .regex argument =>
    let pattern := String.ofList argument
    .ofRun session (Compile.matcher .unicode pattern (Failure.regex pattern))
  | .test input => test session (String.ofList input)
  | .blank => .ofUsage session usage
  | .bare line =>
    if session.isSome then test session (String.ofList line) else .ofUsage session usage

/-- The events of a step; a failure becomes an event of its own. -/
def Step.allEvents (step : Step) : List Event :=
  match step.outcome with
  | .ok _ => step.events
  | .error failure => step.events ++ [Message.failure failure.chain]

/-- The events of lines that are answered in order. -/
def runLines (options : Options) : Session → List String → List Event
  | _, [] => []
  | session, line :: lines =>
    let step := execute options session line
    step.allEvents ++ runLines options step.session lines

/-- The lines of an input, without their line feeds and a carriage return before one. -/
def inputLines (bytes : List UInt8) : List (List UInt8) :=
  let pieces := bytes.splitOn 10
  let complete := pieces.dropLast.map fun line =>
    if line.getLast? = some 13 then line.dropLast else line
  match pieces.getLast? with
  | some [] | none => complete
  | some last => complete ++ [last]

/-- Answers the lines of an input up to a lone dot. A line that is not UTF-8 ends the session with a
failure. -/
def runInput (options : Options) : Session → List (List UInt8) → Run Unit
  | _, [] => ⟨[], .ok ()⟩
  | session, bytes :: lines =>
    match String.fromUTF8? ⟨bytes.toArray⟩ with
    | none => ⟨[], .error .input⟩
    | some line =>
      if Text.trim line.toList = ['.'] then ⟨[], .ok ()⟩
      else
        let step := execute options session line
        let rest := runInput options step.session lines
        { rest with events := step.allEvents ++ rest.events }

end IntervalRegex.Explorer
