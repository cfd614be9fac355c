import IntervalRegex.Console.Styled
import IntervalRegex.Text.Quoted

/-!
# Events

What the program reports, and how a line of it is written: a symbol for its severity, the message,
and the fields. Program output is written without a symbol.
-/

namespace IntervalRegex

inductive Severity
  | trace
  | debug
  | info
  | warn
  | error
deriving DecidableEq, Repr

def Severity.rank : Severity → Nat
  | trace => 0
  | debug => 1
  | info => 2
  | warn => 3
  | error => 4

/-- The part of the program an event comes from. -/
inductive Target
  | print
  | success
  | interval
  | token
  | tokenList
  | matcher
  | intervalCommand
  | listCommand
  | explorer
  | verdict
deriving DecidableEq, Repr

/-- The name under which a filter knows the target. -/
def Target.name : Target → String
  | print => "cidrex::print"
  | success => "cidrex::success"
  | interval => "cidrex_core::range"
  | token => "cidrex_core::cidr"
  | tokenList => "cidrex_core::list"
  | matcher => "cidrex_core::matcher"
  | intervalCommand => "cidrex::commands::range"
  | listCommand => "cidrex::commands::cidr"
  | explorer => "cidrex::commands::explore"
  | verdict => "cidrex::terminal::print"

inductive FieldValue
  | bare (text : String)
  | quoted (text : String)
deriving DecidableEq, Repr

structure Event where
  severity : Severity
  target : Target
  message : Styled
  fields : List (String × FieldValue)
deriving DecidableEq, Repr

namespace Event

/-- The symbol of an event and the code of its style. -/
def symbol (e : Event) : String × String :=
  match e.severity with
  | .trace => ("[ ]", "2")
  | .debug => ("[?]", "34")
  | .info => if e.target = .success then ("[+]", "1;32") else ("[*]", "1;36")
  | .warn => ("[!]", "1;33")
  | .error => ("[-]", "1;31")

/-- Controls that a terminal would obey are shown by their code. -/
def showControl (c : Char) : List Char :=
  match c with
  | '\x1b' => "\\x1b".toList
  | '\x07' => "\\x07".toList
  | '\x08' => "\\x08".toList
  | '\x0c' => "\\x0c".toList
  | '\x7f' => "\\x7f".toList
  | c => if 0x80 ≤ c.toNat ∧ c.toNat ≤ 0x9F then Text.bracedHex c else [c]

def fieldChars (name : String) : FieldValue → List Char
  | .bare text => ' ' :: name.toList ++ '=' :: text.toList
  | .quoted text => ' ' :: name.toList ++ '=' :: Text.quote text.toList

/-- The message and the fields. -/
def body (color : Bool) (e : Event) : List Char :=
  (e.message.chars color).flatMap showControl ++
    e.fields.flatMap fun (name, value) => fieldChars name value

/-- The line of an event, with its line feed. -/
def line (color : Bool) (e : Event) : List Char :=
  if e.target = .print then e.body color ++ ['\n']
  else
    (Styled.painted e.symbol.2 e.symbol.1).chars color ++ ' ' :: e.body color ++ ['\n']

end Event

end IntervalRegex
