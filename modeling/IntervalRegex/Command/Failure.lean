import IntervalRegex.PatternError

/-!
# Failures

Why a command failed, as a chain of messages from the outermost to the innermost.
-/

namespace IntervalRegex

inductive Failure
  | list (text : String) (cause : PatternError)
  | regex (text : String) (cause : PatternError)
  | matcher (cause : PatternError)
  /-- Standard input holds a line that is not UTF-8. -/
  | input
deriving DecidableEq, Repr

namespace Failure

def patternError? : Failure → Option PatternError
  | list _ cause | regex _ cause | matcher cause => some cause
  | input => none

/-- The message of the failure itself. -/
def head : Failure → String
  | list text _ => "[" ++ text ++ "] is not a CIDR pattern list"
  | regex text _ => "[" ++ text ++ "] is not a valid pattern"
  | matcher cause => cause.message
  | input => "failed to read from stdin"

/-- The messages of what lies behind it. -/
def causes : Failure → List String
  | list _ cause | regex _ cause => cause.message :: cause.cause?.toList
  | matcher cause => cause.cause?.toList
  | input => ["stream did not contain valid UTF-8"]

/-- The whole chain on one line. -/
def chain (f : Failure) : String := String.intercalate ": " (f.head :: f.causes)

/-- Indents every line of a cause; of several causes each has its number. -/
def causeLines (numbered : Bool) (cause : String) (index : Nat) : String :=
  let lead := if numbered then "    " ++ String.ofList (Nat.toDigits 10 index) ++ ": " else "    "
  let indent := if numbered then "\n       " else "\n    "
  lead ++ String.intercalate indent ((cause.toList.splitOn '\n').map String.ofList)

/-- What is written when the program ends with the failure. -/
def report (f : Failure) : String :=
  let causes := f.causes.zipIdx.map fun (cause, index) =>
    "\n" ++ causeLines (1 < f.causes.length) cause index
  let behind := if causes.isEmpty then "" else "\n\nCaused by:" ++ String.join causes
  "Error: " ++ f.head ++ behind ++ "\n"

end Failure

end IntervalRegex
