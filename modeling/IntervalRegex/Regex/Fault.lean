/-!
# Why a text is not a regular expression
-/

namespace IntervalRegex.Regex

inductive Fault
  | unclosedGroup
  | unopenedGroup
  | nothingToRepeat
  | countOutOfOrder
  | countWithoutNumber
  | countTooLarge
  | unclosedCount
  | unclosedClass
  | rangeOutOfOrder
  | rangeWithoutCharacters
  | escapeOutsideClass
  | nestedClass
  | setOperation
  | unknownEscape
  | unfinishedEscape
  | emptyHex
  | invalidHex
  | invalidHexDigit
  | backreference
  | lookAround
  | unknownFlag
  | emptyGroupName
  | invalidGroupName
  | unclosedGroupName
  | duplicateGroupName
  | notText
  | notAscii
deriving DecidableEq, Repr

def Fault.message : Fault → String
  | unclosedGroup => "unclosed group"
  | unopenedGroup => "unopened group"
  | nothingToRepeat => "repetition operator missing expression"
  | countOutOfOrder => "invalid repetition count range, the start must be <= the end"
  | countWithoutNumber => "repetition quantifier expects a valid decimal"
  | countTooLarge => "decimal literal invalid"
  | unclosedCount => "unclosed counted repetition"
  | unclosedClass => "unclosed character class"
  | rangeOutOfOrder => "invalid character class range, the start must be <= the end"
  | rangeWithoutCharacters => "invalid range boundary, must be a literal"
  | escapeOutsideClass => "invalid escape sequence found in character class"
  | nestedClass => "nested character class is not supported"
  | setOperation => "character class operation is not supported"
  | unknownEscape => "unrecognized escape sequence"
  | unfinishedEscape => "incomplete escape sequence, reached end of pattern prematurely"
  | emptyHex => "hexadecimal literal empty"
  | invalidHex => "hexadecimal literal is not a Unicode scalar value"
  | invalidHexDigit => "invalid hexadecimal digit"
  | backreference => "backreferences are not supported"
  | lookAround => "look-around, including look-ahead and look-behind, is not supported"
  | unknownFlag => "unrecognized flag"
  | emptyGroupName => "empty capture group name"
  | invalidGroupName => "invalid capture group character"
  | unclosedGroupName => "unclosed capture group name"
  | duplicateGroupName => "duplicate capture group name"
  | notText => "pattern can match invalid UTF-8"
  | notAscii => "Unicode not allowed here"

theorem bind_eq_ok {ε α β : Type} {x : Except ε α} {f : α → Except ε β} {b : β} :
    (x >>= f) = .ok b ↔ ∃ a, x = .ok a ∧ f a = .ok b := by
  cases x <;> simp [bind, Except.bind]

theorem pure_eq_ok {α : Type} {a b : α} : (pure a : Except Fault α) = .ok b ↔ a = b := by
  simp [pure, Except.pure]

/-- A text that could not be read, why, and how many characters stand before the trouble. -/
structure Error where
  source : String
  fault : Fault
  column : Nat
deriving DecidableEq, Repr

/-- The text over a caret that points at the trouble, and the reason. -/
def Error.message (e : Error) : String :=
  "regex parse error:\n    " ++ e.source ++ "\n    " ++ String.ofList (List.replicate e.column ' ') ++
    "^\nerror: " ++ e.fault.message

end IntervalRegex.Regex
