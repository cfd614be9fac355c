import IntervalRegex.Address.Range
import IntervalRegex.Console.Event
import IntervalRegex.Matcher
import IntervalRegex.Text.Columns
import IntervalRegex.Text.Uppercase

/-!
# Messages

The events of the program, one function for each.
-/

namespace IntervalRegex

/-- From level 1 on headers are left out, from level 2 on also what a pattern was made from. -/
structure Options where
  quiet : Nat
  /-- Patterns are shown with their anchors. -/
  anchored : Bool
deriving DecidableEq, Repr

def Options.shown (options : Options) (pattern : String) : String :=
  if options.anchored then anchor pattern else pattern

namespace Message

def print (message : Styled) : Event := ⟨.info, .print, message, []⟩

def totalColumns : Nat := 64

/-- A title in the middle of a line of dashes. -/
def header (title : String) (options : Options) : List Event :=
  if 0 < options.quiet then []
  else
    let framed := "⟦ " ++ title ++ " ⟧"
    let dashes := totalColumns - Text.columns framed.toList
    let line (n : Nat) : Styled := String.ofList (List.replicate n '─')
    [print (.brightBlack
      (line (dashes / 2) ++ .brightGreen (Text.upper framed) ++ line (dashes - dashes / 2)))]

/-- A pattern, and what it was made from. -/
def pattern (label pattern : String) (options : Options) : Event :=
  let shown := options.shown pattern
  if options.quiet < 2 then print (.brightBlack label ++ (" = " : Styled) ++ .bold shown)
  else print shown

def verdict (input : String) (matched : Bool) : Event :=
  let text : Styled := "match [" ++ input ++ "] "
  if matched then ⟨.info, .success, text ++ .green "success", []⟩
  else ⟨.warn, .verdict, text ++ .red "failed", []⟩

def intervalText (min max : Int) : String :=
  String.ofList ("range [".toList ++ Text.signedDecimal min ++ ' ' :: Text.signedDecimal max ++ [']'])

def emptyInterval (min max : Int) : Event :=
  ⟨.warn, .intervalCommand,
    intervalText min max ++ " is empty, the pattern matches nothing but \"\"", []⟩

/-- The addresses behind a token. -/
def coverage (token : String) (addresses : AddressRange) : Event :=
  let size := String.ofList (Text.decimal addresses.size)
  let unit := if addresses.size = 1 then "address" else "addresses"
  ⟨.info, .listCommand,
    token ++ " covers " ++ addresses.text ++ " (" ++ size ++ " " ++ unit ++ ")", []⟩

def noPattern : Event := ⟨.warn, .explorer, "set a pattern first", []⟩

def failure (message : String) : Event := ⟨.error, .explorer, message, []⟩

def compilingInterval (min max : Int) : Event :=
  ⟨.trace, .interval, "compiling numeric range",
    [("min", .bare (String.ofList (Text.signedDecimal min))),
      ("max", .bare (String.ofList (Text.signedDecimal max)))]⟩

def compilingToken (token : String) : Event :=
  ⟨.debug, .token, "compiling CIDR token", [("token", .quoted token)]⟩

def compilingList (count : Nat) : Event :=
  ⟨.debug, .tokenList, "compiling CIDR list",
    [("count", .bare (String.ofList (Text.decimal count)))]⟩

def buildingMatcher (dialect : Dialect) (pattern : String) : Event :=
  ⟨.debug, .matcher, "building matcher",
    [("pattern", .bare (anchor pattern)),
      ("unicode", .bare (if dialect = .unicode then "true" else "false"))]⟩

end Message

end IntervalRegex
