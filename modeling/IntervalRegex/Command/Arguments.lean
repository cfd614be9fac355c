import IntervalRegex.Console.Message

/-!
# Arguments

The arguments of the program: a command with its values, and options before or after it. Values come
in order; one that must be a number is checked when the next value or known option, or the end, is
reached.
-/

namespace IntervalRegex

inductive Command
  | range (min max : Int)
  | list (tokens : String)
  | test (tokens : String) (inputs : List String)
  | explore (lines : List String)
deriving DecidableEq, Repr

structure Invocation where
  command : Command
  options : Options
deriving DecidableEq, Repr

inductive ArgumentError
  | unknown
  | missingValue
  | notNumber
  | unknownCommand
  | missingCommand
  /-- Nothing was given at all. -/
  | nothing
  | help
  | version
  | repeated
  | unneededValue
deriving DecidableEq, Repr

namespace ArgumentError

def message : ArgumentError → String
  | unknown => "unexpected argument"
  | missingValue => "a required argument is missing"
  | notNumber => "a bound is not a 64-bit integer"
  | unknownCommand => "unrecognized command"
  | missingCommand => "a command is required"
  | nothing => "nothing to do"
  | help => "help requested"
  | version => "version requested"
  | repeated => "an option that may be given once is repeated"
  | unneededValue => "an option without a value was given one"

end ArgumentError

namespace Arguments

def usage : String :=
  "Usage: cidrex [OPTIONS] <COMMAND>\n\n" ++
  "Commands:\n" ++
  "  range MIN MAX        pattern of the integers from MIN to MAX\n" ++
  "  cidr LIST            pattern of a comma-separated list of address tokens\n" ++
  "  match LIST INPUT...  test inputs against a list\n" ++
  "  explore [LINE]...    answer the lines, or those of standard input\n\n" ++
  "Options:\n" ++
  "  -q, --quiet     less output; twice for bare patterns\n" ++
  "      --anchored  patterns with their anchors\n" ++
  "  -h, --help      this text\n" ++
  "  -V, --version   the version\n"

def version : String := "cidrex 0.1.0\n"

inductive Verb
  | range
  | list
  | test
  | explore
deriving DecidableEq, Repr

def Verb.read : String → Option Verb
  | "range" | "r" => some range
  | "cidr" | "c" => some list
  | "match" | "m" => some test
  | "explore" | "e" => some explore
  | _ => none

/-- Whether another value may follow `count` values. -/
def Verb.hasRoom : Verb → (count : Nat) → Bool
  | range, count => count < 2
  | list, count => count < 1
  | test, _ | explore, _ => true

inductive Switch
  | quiet
  | anchored
  | help
  | version
deriving DecidableEq, Repr

/-- A switch by its long name. Only in front of a command is there a version. -/
def Switch.ofName (verb : Option Verb) (name : List Char) : Option Switch :=
  match String.ofList name with
  | "quiet" => some quiet
  | "anchored" => some anchored
  | "help" => some help
  | "version" => if verb.isNone then some version else none
  | _ => none

def Switch.ofLetter (verb : Option Verb) : Char → Option Switch
  | 'q' => some quiet
  | 'h' => some help
  | 'V' => if verb.isNone then some version else none
  | _ => none

/-- The options given on one side of the command. -/
structure Given where
  quiet : Option Nat
  anchored : Bool
deriving DecidableEq, Repr

def Given.none : Given := ⟨.none, false⟩

/-- The count of `--quiet` stops at 255. -/
def Given.add (given : Given) : Switch → Except ArgumentError Given
  | .quiet => .ok { given with quiet := some (min 255 (given.quiet.getD 0 + 1)) }
  | .anchored => if given.anchored then .error .repeated else .ok { given with anchored := true }
  | .help => .error .help
  | .version => .error .version

/-- What is given after the command replaces what is given before it. -/
def Given.options (before after : Given) : Options :=
  ⟨(after.quiet.or before.quiet).getD 0, after.anchored || before.anchored⟩

/-- The values of a command so far, the last one first. -/
structure Values where
  given : Given
  values : List String
  /-- The last value is not checked yet. -/
  pending : Bool
deriving DecidableEq, Repr

def isInt64 (value : String) : Bool := (Text.readInt64 value.toList).isSome

def Values.settle (verb : Verb) (v : Values) : Except ArgumentError Values :=
  if verb = .range && v.pending && !v.values.head?.all isInt64 then .error .notNumber
  else .ok { v with pending := false }

/-- Digits with at most one dot and one exponent, the way a number is told from options. -/
def looksNumeric (cs : List Char) : Bool :=
  go false false true cs
where
  go (dot exponent first : Bool) : List Char → Bool
    | [] => true
    | c :: cs =>
      if c.isDigit then go dot exponent false cs
      else if c = '.' ∧ !dot ∧ !exponent ∧ !first then go true exponent false cs
      else if c = 'e' ∧ !exponent ∧ !first then !cs.isEmpty && go dot true false cs
      else false

/-- Whether an argument is a value although options may still follow. A command that takes numbers
has negative ones. -/
def isValue (verb : Option Verb) (count : Nat) (cs : List Char) : Bool :=
  match cs with
  | ['-'] => true
  | '-' :: '-' :: _ => false
  | '-' :: digits => verb == some .range && count < 2 && looksNumeric digits
  | _ => true

/-- The switches of an argument that is no value; letters stand side by side after one hyphen. -/
def switches (verb : Option Verb) (cs : List Char) : List (Except ArgumentError Switch) :=
  match cs with
  | '-' :: '-' :: name =>
    match Switch.ofName verb (name.takeWhile (· ≠ '=')) with
    | some switch => [if name.contains '=' then .error .unneededValue else .ok switch]
    | none => [.error .unknown]
  | cs =>
    cs.tail.map fun letter =>
      match Switch.ofLetter verb letter with
      | some switch => .ok switch
      | none => .error .unknown

def Values.addSwitches (verb : Verb) (v : Values) :
    List (Except ArgumentError Switch) → Except ArgumentError Values
  | [] => .ok v
  | .error e :: _ => .error e
  | .ok switch :: rest => do
    let v ← v.settle verb
    let given ← v.given.add switch
    Values.addSwitches verb { v with given := given } rest

def Values.addValue (verb : Verb) (v : Values) (value : String) : Except ArgumentError Values :=
  if verb.hasRoom v.values.length then do
    let v ← v.settle verb
    .ok { v with values := value :: v.values, pending := true }
  else .error .unknown

/-- Reads what follows a command; after `--` there are only values. -/
def readValues (verb : Verb) : (ended : Bool) → Values → List String → Except ArgumentError Values
  | _, v, [] => v.settle verb
  | true, v, arg :: args => do readValues verb true (← v.addValue verb arg) args
  | false, v, arg :: args =>
    if arg = "--" then readValues verb true v args
    else if isValue (some verb) v.values.length arg.toList then do
      readValues verb false (← v.addValue verb arg) args
    else do
      readValues verb false (← v.addSwitches verb (switches (some verb) arg.toList)) args

/-- The command of a verb and its values. -/
def command (verb : Verb) (values : List String) : Except ArgumentError Command :=
  match verb, values with
  | .range, [min, max] =>
    match Text.readInt64 min.toList, Text.readInt64 max.toList with
    | some min, some max => .ok (.range min max)
    | _, _ => .error .notNumber
  | .list, [tokens] => .ok (.list tokens)
  | .test, tokens :: input :: inputs => .ok (.test tokens (input :: inputs))
  | .explore, lines => .ok (.explore lines)
  | _, _ => .error .missingValue

/-- `help` may be followed by the name of a command. -/
def readHelp : List String → ArgumentError
  | [] => .help
  | [name] => if (Verb.read name).isSome || name == "help" then .help else .unknownCommand
  | _ :: _ :: _ => .unknownCommand

def addSwitches (given : Given) : List (Except ArgumentError Switch) → Except ArgumentError Given
  | [] => .ok given
  | .error e :: _ => .error e
  | .ok switch :: rest => do addSwitches (← given.add switch) rest

/-- Reads arguments up to the command, and the rest with it. -/
def readFrom (before : Given) : List String → Except ArgumentError Invocation
  | [] => .error (if before = .none then .nothing else .missingCommand)
  | arg :: args =>
    if arg = "--" then
      match args with
      | [] => .error (if before = .none then .nothing else .missingCommand)
      | arg :: _ =>
        .error (if (Verb.read arg).isSome || arg == "help" then .unknown else .unknownCommand)
    else if arg = "help" then .error (readHelp args)
    else if isValue none 0 arg.toList then
      match Verb.read arg with
      | none => .error .unknownCommand
      | some verb => do
        let v ← readValues verb false ⟨.none, [], false⟩ args
        return ⟨← command verb v.values.reverse, before.options v.given⟩
    else do
      readFrom (← addSwitches before (switches none arg.toList)) args

def read (args : List String) : Except ArgumentError Invocation := readFrom .none args

end Arguments

end IntervalRegex
