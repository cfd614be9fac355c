import IntervalRegex.Command.Arguments
import IntervalRegex.Console.Filter
import IntervalRegex.Explorer

/-!
# The program

Runs an invocation on an input. The events that the filter shows are the standard output.
-/

namespace IntervalRegex.Program

/-- Tests inputs against a list of tokens. -/
def test (tokens : String) (inputs : List String) (options : Options) : Run Unit :=
  let compiled := Compile.tokenList tokens options
  match compiled.result with
  | .error failure => ⟨compiled.events, .error failure⟩
  | .ok matcher =>
    let verdicts := inputs.map fun input => Message.verdict input (matcher.accepts input)
    ⟨compiled.events ++ verdicts, .ok ()⟩

/-- Answers the given lines or, without any, those of the input. -/
def explore (lines : List String) (input : List UInt8) (options : Options) : Run Unit :=
  if lines.isEmpty then
    let answered := Explorer.runInput options none (Explorer.inputLines input)
    { answered with events := Message.print Explorer.usage :: answered.events }
  else ⟨Explorer.runLines options none lines, .ok ()⟩

def forget {α : Type} (r : Run α) : Run Unit := ⟨r.events, r.result.map fun _ => ()⟩

def title : Command → String
  | .range _ _ => "numeric range"
  | .list _ => "cidr list"
  | .test _ _ => "matching inputs"
  | .explore _ => "pattern explorer"

def run (invocation : Invocation) (input : List UInt8) : Run Unit :=
  let options := invocation.options
  let done :=
    match invocation.command with
    | .range min max => forget (Compile.interval min max options)
    | .list tokens => forget (Compile.tokenList tokens options)
    | .test tokens inputs => test tokens inputs options
    | .explore lines => explore lines input options
  { done with events := Message.header (title invocation.command) options ++ done.events }

/-- What a finished program leaves. -/
structure Result where
  exit : Nat
  output : String
  error : String
deriving DecidableEq, Repr

/-- The result of an invocation under a filter setting. -/
def result (setting : Option String) (color : Bool) (invocation : Invocation)
    (input : List UInt8) : Result :=
  let done := run invocation input
  let output := (Filter.ofSetting setting).output color done.events
  match done.result with
  | .ok () => ⟨0, output, ""⟩
  | .error failure => ⟨1, output, failure.report⟩

/-- Wrong arguments end the program with 2 before anything else happens. -/
def ofArguments (setting : Option String) (color : Bool) (args : List String)
    (input : List UInt8) : Result :=
  match Arguments.read args with
  | .ok invocation => result setting color invocation input
  | .error .help => ⟨0, Arguments.usage, ""⟩
  | .error .version => ⟨0, Arguments.version, ""⟩
  | .error e => ⟨2, "", "error: " ++ e.message ++ "\n\n" ++ Arguments.usage⟩

/-- Whether the arguments make the program read its input. -/
def readsInput (args : List String) : Bool :=
  match Arguments.read args with
  | .ok ⟨.explore [], _⟩ => true
  | _ => false

end IntervalRegex.Program
